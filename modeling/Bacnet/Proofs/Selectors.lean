import Bacnet.Proofs.Elements
import Bacnet.Proofs.Reading

set_option autoImplicit false

/-! # Selectors and the list of properties

An object shows what has a value or is computed, and a selector yields what can be read. In a device
that is built the two are the same for all properties but those that identify an object
(`Target.isSome_read_eq_lists`): whatever can be read is of the schema, and what is computed of the
schema can be read, the list of objects from the device that has it. So the selector of all
properties yields the identification and then what the list of properties reports, and the other two
selectors divide that between them (`Template.selectorsAgree_of_find?`). -/

namespace Bacnet

/-! ## Schemas -/

namespace Schema

variable {s : Schema}

/-- Whether a schema requires a property. -/
def requires (s : Schema) (p : PropertyId) : Bool := (s.spec? p).any (·.required)

theorem requires_of_mem (hs : s ∈ all) {spec : PropertySpec} (hspec : spec ∈ s.specs) :
    s.requires spec.property = spec.required := by
  rw [requires, (spec?_eq_some_iff hs).2 ⟨hspec, rfl⟩, Option.any_some]

/-- What says which object it is. -/
def identification : List PropertyId := [.objectIdentifier, .objectName, .objectType]

/-- The properties that an object of a type has beside those of all objects. -/
def own (s : Schema) : List PropertyId := (s.specs.map (·.property)).filter (!·.isIdentity)

theorem isIdentity_of_mem_identification : ∀ p ∈ identification,
    p.isIdentity = true ∧ p ≠ .objectList := by
  decide

/-- All properties are selected but the list of them. -/
theorem map_property_selects_all : ∀ s ∈ all,
    (s.specs.filter (Target.selects .all)).map (·.property) = identification ++ s.own := by
  decide

end Schema

namespace Object

variable {o : Object} {p : PropertyId}

theorem propertyList_eq (o : Object) : o.propertyList = o.schema.own.filter o.lists := by
  rw [propertyList, Schema.own, List.filter_filter]
  refine List.filter_congr fun p _ => ?_
  rw [lists, Bool.and_right_comm, Bool.and_self]

theorem not_isIdentity_of_mem_propertyList (hp : p ∈ o.propertyList) : p.isIdentity = false := by
  rw [propertyList_eq] at hp
  have hown := (List.mem_filter.1 hp).1
  simpa using (List.mem_filter.1 hown).2

theorem nodup_identification_append_propertyList (o : Object) :
    (Schema.identification ++ o.propertyList).Nodup := by
  have hselected := (Schema.nodup_specs _ o.schema_mem).sublist
    (List.Sublist.map (·.property) (List.filter_sublist (p := Target.selects .all)))
  rw [Schema.map_property_selects_all _ o.schema_mem] at hselected
  rw [propertyList_eq]
  exact hselected.sublist (List.filter_sublist.append_left _)

end Object

namespace Target

variable {t : Target} {p : PropertyId} {v : Value}

theorem schema_mem (t : Target) : t.schema ∈ Schema.all := t.record.schema_mem

/-! ## What can be read -/

/-- A target that is an owned object is of a type that a device can own. -/
def Ownable (t : Target) : Prop := ∀ o, t = .object o → o.schema.objectType ≠ .device

theorem isSome_read_of_not_computed (hcomputed : p.isComputed = false) :
    (t.read p none).toOption.isSome = t.record.lists p := by
  have hidentity : p.isIdentity = false := (Bool.or_eq_false_iff.1 hcomputed).1
  have hread : t.read p none = t.record.read p none := by
    cases t with
    | object o => rfl
    | device d =>
        have hother : p ≠ .objectList := by
          rintro rfl
          exact absurd hcomputed (by decide)
        exact if_neg hother
  rw [hread, Object.read_of_not_computed hcomputed, Object.lists, hidentity, hcomputed,
    Table.contains]
  cases t.record.properties.get? p with
  | none => rfl
  | some v => rfl

/-- A property beside the identification can be read just if it is shown. -/
theorem isSome_read_eq_lists (h : t.Ownable) (hp : p ∈ t.schema.own) :
    (t.read p none).toOption.isSome = t.record.lists p := by
  obtain ⟨hmem, hidentity⟩ := List.mem_filter.1 hp
  rw [Bool.not_eq_true'] at hidentity
  cases hcomputed : p.isComputed with
  | false => exact isSome_read_of_not_computed hcomputed
  | true =>
      have hlist : p = .objectList := by
        rw [PropertyId.isComputed, hidentity, Bool.false_or, beq_iff_eq] at hcomputed
        exact hcomputed
      subst hlist
      cases t with
      | device d =>
          rw [Object.lists, hidentity, hcomputed, Bool.or_true]
          rfl
      | object o =>
          -- Only devices list objects.
          obtain ⟨spec, hspec, hproperty⟩ := List.mem_map.1 hmem
          have hfixed := Schema.isIdentity_of_isComputed _ o.schema_mem (h o rfl) spec hspec
            (by rw [hproperty]; rfl)
          rw [hproperty] at hfixed
          exact absurd hfixed (by decide)

/-! ## What selectors yield -/

/-- What comes of reading a whole property of a target. -/
def reading? (t : Target) (p : PropertyId) : Option AccessElement :=
  (t.read p none).toOption.map (⟨⟨p, none⟩, .ok ·⟩)

theorem Typed.element?_eq (h : t.Typed) (p : PropertyId) : t.element? ⟨p, none⟩ = t.reading? p := by
  unfold element? reading?
  cases hread : t.read p none with
  | ok v => rfl
  | error e =>
      cases h.absent p e hread
      rfl

theorem exists_of_reading?_eq_some {e : AccessElement} (h : t.reading? p = some e) :
    e.reference = ⟨p, none⟩ ∧ ∃ v, e.result = .ok v ∧ t.read p none = .ok v := by
  obtain ⟨v, hv, rfl⟩ := Option.map_eq_some_iff.1 h
  exact ⟨rfl, v, rfl, Decode.eq_ok_of_toOption hv⟩

theorem Typed.filterMap_expand (h : t.Typed) {selector : PropertyId}
    (hselector : selector.isSelector) (index : Option UInt32) :
    (t.expand ⟨selector, index⟩).filterMap t.element?
      = (t.schema.specs.filter (selects selector)).filterMap (t.reading? ·.property) := by
  rw [expand, if_pos hselector, List.filterMap_map]
  exact List.filterMap_congr fun spec _ => h.element?_eq spec.property

/-- What comes of reading the identification and then all that is shown. -/
def readings (t : Target) : List AccessElement :=
  (Schema.identification ++ t.record.propertyList).filterMap t.reading?

theorem exists_read_of_mem (h : t.Ownable)
    (hp : p ∈ Schema.identification ++ t.record.propertyList) : ∃ v, t.read p none = .ok v := by
  rcases List.mem_append.1 hp with hp | hp
  · obtain ⟨hidentity, hother⟩ := Schema.isIdentity_of_mem_identification p hp
    cases t with
    | object o => exact o.exists_read_of_isIdentity hidentity
    | device d =>
        obtain ⟨v, hv⟩ := d.object.exists_read_of_isIdentity hidentity
        exact ⟨v, (if_neg hother).trans hv⟩
  · rw [Object.propertyList_eq] at hp
    obtain ⟨hown, hlists⟩ := List.mem_filter.1 hp
    rw [← isSome_read_eq_lists h hown] at hlists
    obtain ⟨v, hv⟩ := Option.isSome_iff_exists.1 hlists
    exact ⟨v, Decode.eq_ok_of_toOption hv⟩

theorem map_reference_readings (h : t.Ownable) :
    t.readings.map (·.reference)
      = (Schema.identification ++ t.record.propertyList).map (⟨·, none⟩) := by
  rw [readings, List.map_filterMap, ← List.filterMap_eq_map]
  refine List.filterMap_congr fun p hp => ?_
  obtain ⟨v, hv⟩ := exists_read_of_mem h hp
  rw [reading?, hv]
  rfl

/-- What can be read of all properties is what is shown of them. -/
theorem filterMap_selects_all (h : t.Ownable) :
    (t.schema.specs.filter (selects .all)).filterMap (t.reading? ·.property) = t.readings := by
  have hown : (t.schema.own.filter t.record.lists).filterMap t.reading?
      = t.schema.own.filterMap t.reading? := by
    rw [List.filterMap_filter]
    refine List.filterMap_congr fun p hp => ?_
    rw [← isSome_read_eq_lists h hp, reading?]
    cases t.read p none with
    | ok v => rfl
    | error e => rfl
  calc (t.schema.specs.filter (selects .all)).filterMap (t.reading? ·.property)
      = ((t.schema.specs.filter (selects .all)).map (·.property)).filterMap t.reading? := by
        rw [List.filterMap_map]
        rfl
    _ = (Schema.identification ++ t.schema.own).filterMap t.reading? := by
        rw [Schema.map_property_selects_all _ t.schema_mem]
    _ = t.readings := by
        rw [readings, Object.propertyList_eq, List.filterMap_append, List.filterMap_append]
        exact congrArg _ hown.symm

theorem selects_required (spec : PropertySpec) :
    selects .required spec = (spec.required && selects .all spec) := by
  rw [selects, if_pos rfl, Bool.and_comm]
  exact congrArg _ (Bool.and_true _).symm

theorem selects_optional (spec : PropertySpec) :
    selects .optional spec = (!spec.required && selects .all spec) := by
  rw [selects, if_neg (by decide), if_pos rfl, Bool.and_comm]
  exact congrArg _ (Bool.and_true _).symm

/-- A selector that takes its part of what the schema requires or does not yields its part of all
    that can be read. -/
theorem filterMap_selects (h : t.Ownable) {selector : PropertyId} (keep : Bool → Bool)
    (hselects : ∀ spec, selects selector spec = (keep spec.required && selects .all spec)) :
    (t.schema.specs.filter (selects selector)).filterMap (t.reading? ·.property)
      = t.readings.filter fun e => keep (t.schema.requires e.reference.property) := by
  rw [← filterMap_selects_all h, List.filter_filterMap, funext hselects, ← List.filter_filter,
    List.filterMap_filter, List.filterMap_filter, List.filterMap_filter]
  refine List.filterMap_congr fun spec hspec => ?_
  have hrequires := Schema.requires_of_mem t.schema_mem hspec
  cases hreading : t.reading? spec.property with
  | none => simp
  | some e =>
      obtain ⟨href, -⟩ := exists_of_reading?_eq_some hreading
      simp only [Option.filter_some, href, hrequires]

theorem exists_of_mem_readings {e : AccessElement} (he : e ∈ t.readings) :
    ∃ v, e.result = .ok v ∧ t.read e.reference.property none = .ok v := by
  obtain ⟨p, -, hp⟩ := List.mem_filterMap.1 he
  obtain ⟨href, v, hresult, hv⟩ := exists_of_reading?_eq_some hp
  exact ⟨v, hresult, by rw [href, hv]⟩

end Target

/-! ## Replies -/

/-- The results of the selectors for an object agree with the list of its properties and with the
    replies to questions for single properties. -/
structure Device.SelectorsAgree (d : Device) (id : ObjectId) (target : Target)
    (elements : List AccessElement) : Prop where
  listed : target.read .propertyList none
    = .ok (.list (target.record.propertyList.map (.enumerated ·.code)))
  all : ∀ requester index,
    d.replyToReadPropertyMultiple requester ⟨[⟨id, [⟨.all, index⟩]⟩]⟩
      = .readPropertyMultipleAck requester ⟨[⟨target.id, elements⟩]⟩
  references : elements.map (·.reference)
    = (.objectIdentifier :: .objectName :: .objectType :: target.record.propertyList).map
        fun p : PropertyId => ⟨p, none⟩
  nodup : (elements.map (·.reference)).Nodup
  values : ∀ e ∈ elements, ∃ v, e.result = .ok v ∧
    target.read e.reference.property none = .ok v ∧ d.Tells id target e.reference.property none v
  required : ∀ requester index,
    d.replyToReadPropertyMultiple requester ⟨[⟨id, [⟨.required, index⟩]⟩]⟩
      = .readPropertyMultipleAck requester ⟨[⟨target.id,
          elements.filter (target.schema.requires ·.reference.property)⟩]⟩
  optional : ∀ requester index,
    d.replyToReadPropertyMultiple requester ⟨[⟨id, [⟨.optional, index⟩]⟩]⟩
      = .readPropertyMultipleAck requester ⟨[⟨target.id,
          elements.filter (!target.schema.requires ·.reference.property)⟩]⟩
  notMem : .propertyList ∉ target.record.propertyList
  known : ∀ p ∈ target.record.propertyList, ∀ index q,
    target.read p index ≠ .error (.unknownProperty q)

namespace Target

variable {target : Target} {d : Device} {id : ObjectId}

theorem replyToReadPropertyMultiple_of_selector (h : target.Typed)
    (hfind : d.find? id = some target) (requester : Requester) {selector : PropertyId}
    (hselector : selector.isSelector) (index : Option UInt32) :
    d.replyToReadPropertyMultiple requester ⟨[⟨id, [⟨selector, index⟩]⟩]⟩
      = .readPropertyMultipleAck requester ⟨[⟨target.id,
          (target.schema.specs.filter (selects selector)).filterMap
            (target.reading? ·.property)⟩]⟩ := by
  have hcontribution := Device.contribution_of_find?_eq_some d hfind
  simp only [Device.replyToReadPropertyMultiple, List.map_cons, List.map_nil, Device.access_eq,
    hfind, Option.elim_some, hcontribution, List.flatMap_cons, List.flatMap_nil, List.append_nil,
    h.filterMap_expand hselector index]

theorem selectorsAgree (h : target.Typed) (hownable : target.Ownable)
    (hfind : d.find? id = some target) : d.SelectorsAgree id target target.readings where
  listed := by
    cases target with
    | object o => rfl
    | device d => rfl
  all := by
    intro requester index
    rw [replyToReadPropertyMultiple_of_selector h hfind requester (by rfl) index,
      filterMap_selects_all hownable]
  references := map_reference_readings hownable
  nodup := by
    rw [map_reference_readings hownable]
    refine (Object.nodup_identification_append_propertyList _).map fun p q hpq => ?_
    exact congrArg PropertyReference.property hpq
  values := by
    intro e he
    obtain ⟨v, hresult, hv⟩ := exists_of_mem_readings he
    exact ⟨v, hresult, hv, d.tells_of_read hfind hv⟩
  required := by
    intro requester index
    rw [replyToReadPropertyMultiple_of_selector h hfind requester (by rfl) index,
      filterMap_selects hownable (fun required => required) selects_required]
  optional := by
    intro requester index
    rw [replyToReadPropertyMultiple_of_selector h hfind requester (by rfl) index,
      filterMap_selects hownable not selects_optional]
  notMem := by
    intro hmem
    exact absurd (Object.not_isIdentity_of_mem_propertyList hmem) (by decide)
  known := by
    intro p hp index q hunknown
    obtain ⟨v, hv⟩ := exists_read_of_mem hownable (List.mem_append_right _ hp)
    rw [read_of_read_none hv] at hunknown
    exact Value.select_ne_unknownProperty _ _ _ _ hunknown

end Target

namespace Template

variable {t : Template} {d : Device} {id : ObjectId} {target : Target}

theorem ownable_of_find? (h : t.build = .ok d) (hfind : d.find? id = some target) :
    target.Ownable := by
  rintro o rfl
  rcases Device.mem_of_find? hfind with hdevice | ⟨o', ho', howned⟩
  · cases hdevice
  · cases howned
    obtain ⟨record, -, hrecord⟩ :=
      exists_of_mem_of_forall₂ (describes_of_build h).objects.flip ho'
    exact hrecord.hasSchema.ne_device

/-- For everything that an identifier leads to in a device that is built, the selector of all
    properties yields what identifies it and then what the list of its properties reports, each with
    the value that a question for it alone is answered with. -/
theorem selectorsAgree_of_find? (h : t.build = .ok d) (hfind : d.find? id = some target) :
    ∃ elements, d.SelectorsAgree id target elements :=
  ⟨target.readings, Target.selectorsAgree (typed_of_find? h hfind) (ownable_of_find? h hfind) hfind⟩

/-- An input shows its description, which is not required, among what is. -/
theorem selectorsAgree_of_find?_input :
    let plant : Template := ⟨[⟨"device-identifier", .integer 1⟩, ⟨"device-name", .text "plant"⟩], [
      ⟨"analog-input", [⟨"object-identifier", .integer 3⟩, ⟨"object-name", .text "T1"⟩,
        ⟨"description", .text "outside"⟩]⟩]⟩
    let id : ObjectId := .ofParts .analogInput 3
    ∃ d target elements, plant.build = .ok d ∧ d.find? id = some target ∧
      target.record.propertyList
        = [.presentValue, .description, .statusFlags, .eventState, .outOfService, .units] ∧
      d.SelectorsAgree id target elements := by
  intro plant id
  have hshown : plant.build.toOption.any (fun d => (d.find? id).any fun target =>
      target.record.propertyList
        == [.presentValue, .description, .statusFlags, .eventState, .outOfService, .units])
      = true := by
    decide +kernel
  obtain ⟨d, hbuild, hshown⟩ := (Option.any_eq_true _ _).1 hshown
  obtain ⟨target, hfind, hshown⟩ := (Option.any_eq_true _ _).1 hshown
  have h := Decode.eq_ok_of_toOption hbuild
  obtain ⟨elements, hagree⟩ := selectorsAgree_of_find? h hfind
  exact ⟨d, target, elements, h, hfind, beq_iff_eq.1 hshown, hagree⟩

end Template

end Bacnet
