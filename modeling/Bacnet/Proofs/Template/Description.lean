import Bacnet.Proofs.Alike
import Bacnet.Proofs.Template.Acceptance

set_option autoImplicit false

/-! # A device is what its template says

A property that can be configured is read as the last record about it says, or as its default, or
not at all (`PropertySpec.Outcome`), and that is so for the device and for every object that it owns
(`Template.Says`). Only the last records count, so templates that differ in the spelling of keys and
in the order of records about different things describe devices that answer alike
(`Template.Rearranges`). -/

namespace Bacnet

/-! ## What is read -/

/-- What comes of reading a property of an object that records describe. -/
inductive PropertySpec.Outcome (spec : PropertySpec) (records : List Record) :
    Except ReadError Value → Prop
  | given {setting : Setting} {v : Value}
      (hlast : Record.last? records (.property spec.property) = some setting)
      (hv : setting.toValue spec.property spec.datatype = .ok v) : Outcome spec records (.ok v)
  | default (hnone : ∀ r ∈ records, r.about? ≠ some (.property spec.property))
      (hrequired : spec.required = true) : Outcome spec records (.ok spec.defaultValue)
  | absent (hnone : ∀ r ∈ records, r.about? ≠ some (.property spec.property))
      (hoptional : spec.required = false) :
      Outcome spec records (.error (.unknownProperty spec.property))

namespace Object

variable {o : Object} {s : Schema} {records : List Record} {spec : PropertySpec} {p : PropertyId}

/-- A property that is not computed is read from the table of values. -/
theorem whole?_of_not_computed (hcomputed : p.isComputed = false) :
    o.whole? p = o.properties.get? p := by
  simp only [PropertyId.isComputed, PropertyId.isIdentity, Bool.or_eq_false_iff,
    beq_eq_false_iff_ne] at hcomputed
  obtain ⟨⟨⟨⟨hid, hname⟩, htype⟩, hlist⟩, -⟩ := hcomputed
  rw [whole?, if_neg hid, if_neg hname, if_neg htype, if_neg hlist]

theorem read_of_not_computed (hcomputed : p.isComputed = false) :
    o.read p none = (o.properties.get? p).elim (.error (.unknownProperty p)) .ok := by
  rw [read, whole?_of_not_computed hcomputed]
  cases o.properties.get? p with
  | none => rfl
  | some v => rfl

theorem Follows.outcome_read (h : o.Follows s records) (hspec : spec ∈ s.specs)
    (hcomputed : spec.property.isComputed = false) :
    spec.Outcome records (o.read spec.property none) := by
  have hs : s ∈ Schema.all := h.schema ▸ o.schema_mem
  have hfound := (Schema.spec?_eq_some_iff hs).2 ⟨hspec, rfl⟩
  rw [read_of_not_computed hcomputed, h.get?, Schema.given?]
  cases hlast : Record.last? records (.property spec.property) with
  | none =>
      have hnone := Record.last?_eq_none_iff.1 hlast
      rw [Option.bind_none, Option.none_or, Schema.default?, hcomputed, hfound]
      cases hrequired : spec.required with
      | true =>
          rw [Option.filter_some, hrequired]
          exact .default hnone hrequired
      | false =>
          rw [Option.filter_some, hrequired]
          exact .absent hnone hrequired
  | some setting =>
      obtain ⟨r, hr, habout, rfl⟩ := Record.exists_of_last?_eq_some hlast
      obtain ⟨v, hv⟩ := (h.accepts.takes r hr).exists_convert habout
      rw [Option.bind_some, hv, Option.some_or]
      rw [Schema.convert?, hfound, Option.bind_some] at hv
      exact .given hlast (Decode.eq_ok_of_toOption hv)

end Object

/-- Every property of a target that is not computed is read as records say. -/
def Target.ReadsAs (target : Target) (records : List Record) : Prop :=
  ∀ spec ∈ target.schema.specs, spec.property.isComputed = false →
    spec.Outcome records (target.read spec.property none)

/-- A device with the identifiers, the names and the values that a template says. -/
structure Template.Says (t : Template) (d : Device) : Prop where
  id : Record.id? .device t.device = some d.id
  name : Record.name? t.device = some d.name
  schema : d.object.schema = .device
  reads : (Target.device d).ReadsAs t.device
  ids : t.objects.map (·.id?) = d.objects.map fun o => some o.id
  names : t.objects.map (·.name?) = d.objects.map fun o => some o.name
  objects : List.Forall₂ (fun record o => record.HasSchema o.schema ∧
    (Target.object o).ReadsAs record.properties) t.objects d.objects

theorem Template.says_of_describes {t : Template} {d : Device} (h : t.Describes d) :
    t.Says d where
  id := h.device.id
  name := h.device.name
  schema := h.device.schema
  reads := by
    intro spec hspec hcomputed
    have hother : spec.property ≠ .objectList := by
      intro hlist
      rw [hlist] at hcomputed
      exact absurd hcomputed (by decide)
    show spec.Outcome t.device (d.read spec.property none)
    rw [Device.read, if_neg hother]
    exact h.device.outcome_read (h.device.schema ▸ hspec) hcomputed
  ids := map_eq_map_of_forall₂ (fun _ _ ho => ho.id?_eq) h.objects
  names := map_eq_map_of_forall₂ (fun _ _ ho => ho.name?_eq) h.objects
  objects := h.objects.imp fun _ _ ho => ⟨ho.hasSchema, fun _ hspec hcomputed =>
    ho.follows.outcome_read hspec hcomputed⟩

/-! ## Records in another order and another spelling -/

namespace Record

/-- The same records with keys spelled in another way and moved past records about something
    else. -/
inductive Rearranges : List Record → List Record → Prop
  | refl (records : List Record) : Rearranges records records
  | respell (front back : List Record) {r r' : Record}
      (hkey : normalizeKey r'.key = normalizeKey r.key) (hsetting : r'.setting = r.setting) :
      Rearranges (front ++ r :: back) (front ++ r' :: back)
  | swap (front back : List Record) {r r' : Record} (hother : r.about? ≠ r'.about?) :
      Rearranges (front ++ r :: r' :: back) (front ++ r' :: r :: back)
  | trans {records records' records'' : List Record} (h : Rearranges records records')
      (h' : Rearranges records' records'') : Rearranges records records''

variable {records records' : List Record}

theorem about?_eq_of_normalizeKey_eq {r r' : Record}
    (hkey : normalizeKey r'.key = normalizeKey r.key) : r'.about? = r.about? := by
  rw [about?, about?, Key.ofText?, Key.ofText?, hkey]

/-- The last record about each thing says the same. -/
theorem Rearranges.last?_eq (h : Rearranges records records') (key : Key) :
    last? records' key = last? records key := by
  induction h with
  | refl => rfl
  | respell front back hkey hsetting =>
      rw [last?_append, last?_append, last?_cons, last?_cons, about?_eq_of_normalizeKey_eq hkey,
        hsetting]
  | @swap front back r r' hother =>
      simp only [last?_append, last?_cons, Option.or_assoc]
      by_cases habout : r.about? = some key
      · have habout' : r'.about? ≠ some key := fun h => hother (habout.trans h.symm)
        simp only [if_pos habout, if_neg habout', Option.none_or, Option.some_or]
      · simp only [if_neg habout, Option.none_or]
  | trans _ _ ih ih' => exact ih'.trans ih

/-- No record is new but for its spelling. -/
theorem Rearranges.exists_mem (h : Rearranges records records') {r' : Record}
    (hr' : r' ∈ records') : ∃ r ∈ records, r'.about? = r.about? ∧ r'.setting = r.setting := by
  induction h generalizing r' with
  | refl => exact ⟨r', hr', rfl, rfl⟩
  | respell front back hkey hsetting =>
      rcases List.mem_append.1 hr' with hr' | hr'
      · exact ⟨r', List.mem_append_left _ hr', rfl, rfl⟩
      rcases List.mem_cons.1 hr' with rfl | hr'
      · exact ⟨_, List.mem_append_right _ (List.mem_cons_self ..),
          about?_eq_of_normalizeKey_eq hkey, hsetting⟩
      · exact ⟨r', List.mem_append_right _ (List.mem_cons_of_mem _ hr'), rfl, rfl⟩
  | swap front back hother =>
      exact ⟨r', ((List.Perm.swap _ _ back).append_left front).mem_iff.1 hr', rfl, rfl⟩
  | trans _ _ ih ih' =>
      obtain ⟨r, hr, habout, hsetting⟩ := ih' hr'
      obtain ⟨r₀, hr₀, habout₀, hsetting₀⟩ := ih hr
      exact ⟨r₀, hr₀, habout.trans habout₀, hsetting.trans hsetting₀⟩

theorem Rearranges.id?_eq (h : Rearranges records records') (objectType : ObjectType) :
    id? objectType records' = id? objectType records := by
  rw [id?, id?, instanceNumber?, instanceNumber?, h.last?_eq]

theorem Rearranges.name?_eq (h : Rearranges records records') : name? records' = name? records := by
  rw [name?, name?, h.last?_eq]

theorem Rearranges.accepts (h : Rearranges records records') {s : Schema}
    (haccepts : s.Accepts records) : s.Accepts records' := by
  refine ⟨?_, ?_, fun r' hr' => ?_⟩
  · rw [← last?_isSome_iff, h.last?_eq, last?_isSome_iff]
    exact haccepts.identifier
  · rw [← last?_isSome_iff, h.last?_eq, last?_isSome_iff]
    exact haccepts.name
  · obtain ⟨r, hr, habout, hsetting⟩ := h.exists_mem hr'
    exact (haccepts.takes r hr).of_about_eq habout hsetting

/-- Objects that follow the same records but for their order and spelling are alike. -/
theorem Rearranges.alike (h : Rearranges records records') {s : Schema} {o o' : Object}
    (ho : o.Follows s records) (ho' : o'.Follows s records') : o.Alike o' where
  id := Option.some.inj (by rw [← ho'.id, ← ho.id, h.id?_eq])
  name := Option.some.inj (by rw [← ho'.name, ← ho.name, h.name?_eq])
  schema := ho'.schema.trans ho.schema.symm
  get? := by
    intro p
    rw [ho'.get?, ho.get?, Schema.given?, Schema.given?, h.last?_eq]

end Record

/-- The same record of an object with its properties respelled and moved. -/
structure ObjectRecord.Rearranges (record record' : ObjectRecord) : Prop where
  objectType : record'.objectType = record.objectType
  properties : Record.Rearranges record.properties record'.properties

namespace ObjectRecord.Rearranges

variable {record record' : ObjectRecord} (h : record.Rearranges record')

include h

theorem id?_eq : record'.id? = record.id? := by
  rw [id?, id?, type?, type?, h.objectType]
  exact congrArg _ (funext h.properties.id?_eq)

theorem name?_eq : record'.name? = record.name? := h.properties.name?_eq

theorem hasSchema {s : Schema} (hs : record.HasSchema s) : record'.HasSchema s :=
  ⟨h.objectType ▸ hs.named, hs.mem, hs.ne_device⟩

theorem alike {o o' : Object} (ho : record.Describes o) (ho' : record'.Describes o') :
    o.Alike o' := by
  have hschema := ho'.hasSchema.unique (h.hasSchema ho.hasSchema)
  exact h.properties.alike ho.follows (hschema ▸ ho'.follows)

end ObjectRecord.Rearranges

namespace Template

variable {t t' : Template} {d d' : Device}

/-- The same template with the records about each object respelled and moved. -/
structure Rearranges (t t' : Template) : Prop where
  device : Record.Rearranges t.device t'.device
  objects : List.Forall₂ ObjectRecord.Rearranges t.objects t'.objects

theorem Rearranges.accepted (h : t.Rearranges t') (ht : t.Accepted) : t'.Accepted where
  device := h.device.accepts ht.device
  objects := by
    intro record' hrecord'
    obtain ⟨record, hrecord, hsame⟩ := exists_of_mem_of_forall₂ h.objects.flip hrecord'
    obtain ⟨s, hs, haccepts⟩ := ht.objects record hrecord
    exact ⟨s, hsame.hasSchema hs, hsame.properties.accepts haccepts⟩
  ids := by
    rw [← map_eq_map_of_forall₂ (fun _ _ hsame => hsame.id?_eq.symm) h.objects]
    exact ht.ids
  names := by
    rw [h.device.name?_eq, ← map_eq_map_of_forall₂ (fun _ _ hsame => hsame.name?_eq.symm) h.objects]
    exact ht.names

theorem Rearranges.alike (h : t.Rearranges t') (hd : t.Describes d) (hd' : t'.Describes d') :
    d.Alike d' where
  object := h.device.alike hd.device hd'.device
  objects := forall₂_of_forall₂ (fun _ _ _ _ hsame ho ho' => hsame.alike ho ho') h.objects
    hd.objects hd'.objects
  indexed := hd.indexed
  indexed' := hd'.indexed

/-- A device that is built is what its template says, and its answers change neither with the
    spelling of the keys nor with the order of records about different things. -/
theorem says_of_build (h : t.build = .ok d) :
    t.Says d ∧ ∀ t', t.Rearranges t' → ∃ d', t'.build = .ok d' ∧
      ∀ config datagram source, (Responder.mk d' config).process datagram source
        = (Responder.mk d config).process datagram source := by
  have hdescribes := describes_of_build h
  refine ⟨says_of_describes hdescribes, fun t' hsame => ?_⟩
  obtain ⟨d', hd'⟩ := (hsame.accepted hdescribes.accepted).exists_build
  have halike := hsame.alike hdescribes (describes_of_build hd')
  exact ⟨d', hd', halike.process_eq⟩

/-- Of two vendor names the last one is read, and moving the name of the device past the first one
    changes nothing. -/
theorem says_of_build_moved :
    let plant : Template := ⟨[⟨"device-identifier", .integer 1⟩, ⟨"device-name", .text "plant"⟩,
      ⟨"vendor-name", .text "first"⟩, ⟨"vendor-name", .text "last"⟩], []⟩
    let moved : Template := ⟨[⟨"device-identifier", .integer 1⟩, ⟨"VendorName", .text "first"⟩,
      ⟨"device-name", .text "plant"⟩, ⟨"vendor-name", .text "last"⟩], []⟩
    ∃ d d', plant.build = .ok d ∧ moved.build = .ok d' ∧
      d.read .vendorName none = .ok (.characterString "last") ∧
      ∀ config datagram source, (Responder.mk d' config).process datagram source
        = (Responder.mk d config).process datagram source := by
  intro plant moved
  have hbuilds : plant.build.toOption.isSome = true := by decide +kernel
  obtain ⟨d, hd⟩ := Option.isSome_iff_exists.1 hbuilds
  have hbuild := Decode.eq_ok_of_toOption hd
  have hkey : normalizeKey "VendorName" = normalizeKey "vendor-name" := by decide +kernel
  have hother : Record.about? ⟨"device-name", .text "plant"⟩
      ≠ Record.about? ⟨"VendorName", .text "first"⟩ := by
    decide +kernel
  have hrespelled : Record.Rearranges plant.device
      [⟨"device-identifier", .integer 1⟩, ⟨"device-name", .text "plant"⟩,
        ⟨"VendorName", .text "first"⟩, ⟨"vendor-name", .text "last"⟩] :=
    .respell [⟨"device-identifier", .integer 1⟩, ⟨"device-name", .text "plant"⟩]
      [⟨"vendor-name", .text "last"⟩] hkey rfl
  have hswapped : Record.Rearranges _ moved.device :=
    .swap [⟨"device-identifier", .integer 1⟩] [⟨"vendor-name", .text "last"⟩] hother
  obtain ⟨hsaid, hmoved⟩ := says_of_build hbuild
  obtain ⟨d', hbuild', hsame⟩ := hmoved moved ⟨hrespelled.trans hswapped, .nil⟩
  refine ⟨d, d', hbuild, hbuild', ?_, hsame⟩
  have hvendor : Schema.must .vendorName .characterString ∈ (Target.device d).schema.specs := by
    rw [Target.schema, Target.record, hsaid.schema]
    decide
  have hsetting : (Record.last? plant.device (.property .vendorName)).bind (·.text?)
      = some "last" := by
    decide +kernel
  obtain ⟨setting, hlast, htext⟩ := Option.bind_eq_some_iff.1 hsetting
  have hread := hsaid.reads _ hvendor rfl
  generalize hout : (Target.device d).read _ none = outcome at hread
  cases hread with
  | given hlast' hv =>
      cases hlast.symm.trans hlast'
      rw [Setting.text?_eq_some_iff.1 htext] at hv
      cases hv
      exact hout
  | default hnone => exact nomatch (Record.last?_eq_none_iff.2 hnone).symm.trans hlast
  | absent hnone => exact nomatch (Record.last?_eq_none_iff.2 hnone).symm.trans hlast

end Template

end Bacnet
