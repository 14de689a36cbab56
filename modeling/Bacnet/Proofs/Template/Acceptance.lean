import Bacnet.Proofs.Template.Building

set_option autoImplicit false

/-! # Which templates are accepted

A template is accepted just if every record in it is right, its device and every object have an
identifier and a name, and no identifier and no name is taken twice (`Template.Accepted`). Every
other template is refused, with an error that says something that is wrong with it
(`Template.Fault`). -/

namespace Bacnet

namespace ObjectRecord

variable {record : ObjectRecord} {s : Schema} {o : Object} {e : ConfigError}

/-- The identifier that the record of an object says. -/
def id? (record : ObjectRecord) : Option ObjectId :=
  record.type?.bind fun t => Record.id? t record.properties

/-- The name that the record of an object says. -/
def name? (record : ObjectRecord) : Option String := Record.name? record.properties

theorem Describes.id?_eq (h : record.Describes o) : record.id? = some o.id := by
  rw [id?, type?_eq_some_iff.2 ⟨_, h.hasSchema, rfl⟩]
  exact h.follows.id

theorem Describes.name?_eq (h : record.Describes o) : record.name? = some o.name := h.follows.name

/-- A device owns no devices, so it never shares its identifier with an object. -/
theorem Describes.id_ne (h : record.Describes o) {object : Object}
    (hschema : object.schema = .device) : o.id ≠ object.id := by
  intro hid
  have hsame := o.schema_eq.symm.trans (hid ▸ object.schema_eq)
  rw [hschema, Option.some_inj] at hsame
  exact h.hasSchema.ne_device (hsame ▸ rfl)

end ObjectRecord

namespace Template

variable {t : Template} {d : Device} {e : ConfigError}

/-! ## What is right -/

/-- Nothing is wrong with a template. -/
structure Accepted (t : Template) : Prop where
  device : Schema.device.Accepts t.device
  objects : ∀ record ∈ t.objects, ∃ s, record.HasSchema s ∧ s.Accepts record.properties
  ids : (t.objects.map (·.id?)).Nodup
  names : (Record.name? t.device :: t.objects.map (·.name?)).Nodup

namespace Describes

variable (h : t.Describes d)

include h

theorem map_id? : t.objects.map (·.id?) = (d.objects.map (·.id)).map some := by
  rw [List.map_map]
  exact map_eq_map_of_forall₂ (fun _ _ ho => ho.id?_eq) h.objects

theorem map_name? :
    Record.name? t.device :: t.objects.map (·.name?) = d.nameList.map some := by
  rw [Device.nameList, List.map_cons, List.map_map]
  exact congrArg₂ _ h.device.name (map_eq_map_of_forall₂ (fun _ _ ho => ho.name?_eq) h.objects)

theorem accepted : t.Accepted where
  device := h.device.accepts
  objects := by
    intro record hrecord
    obtain ⟨o, -, ho⟩ := exists_of_mem_of_forall₂ h.objects hrecord
    exact ⟨o.schema, ho.hasSchema, ho.follows.accepts⟩
  ids := by
    rw [h.map_id?]
    exact h.indexed.ids.nodup.map fun _ _ => Option.some.inj
  names := by
    rw [h.map_name?]
    exact (List.nodup_cons.2 ⟨h.indexed.name_notMem, h.indexed.names.nodup⟩).map
      fun _ _ => Option.some.inj

end Describes

/-! ## What is wrong -/

/-- What is wrong with a template, and the error that says so. -/
inductive Fault (t : Template) : ConfigError → Prop
  | device {e : ConfigError} (h : Schema.device.Fault t.device e) : Fault t e
  | object {record : ObjectRecord} {e : ConfigError} (hrecord : record ∈ t.objects)
      (h : record.Fault e) : Fault t e
  | duplicateIdentifier {front back : List ObjectRecord} {record : ObjectRecord} {id : ObjectId}
      (hobjects : t.objects = front ++ record :: back) (hid : record.id? = some id)
      (htaken : some id ∈ front.map (·.id?)) : Fault t (.duplicateIdentifier id)
  | duplicateName {front back : List ObjectRecord} {record : ObjectRecord} {name : String}
      (hobjects : t.objects = front ++ record :: back) (hname : record.name? = some name)
      (htaken : some name ∈ Record.name? t.device :: front.map (·.name?)) :
      Fault t (.duplicateName name)

theorem Fault.not_accepted (h : t.Fault e) : ¬ t.Accepted := by
  intro haccepted
  cases h with
  | device hfault => exact hfault.not_accepts haccepted.device
  | object hrecord hfault =>
      obtain ⟨s, hs, haccepts⟩ := haccepted.objects _ hrecord
      cases hfault with
      | unknownObjectType hnone => exact hnone s hs
      | records hs' hfault =>
          cases hs.unique hs'
          exact hfault.not_accepts haccepts
  | duplicateIdentifier hobjects hid htaken =>
      have hids := haccepted.ids
      rw [hobjects, List.map_append, List.map_cons, hid] at hids
      exact (List.nodup_append.1 hids).2.2 _ htaken _ (List.mem_cons_self ..) rfl
  | duplicateName hobjects hname htaken =>
      have hnames := haccepted.names
      rw [hobjects, List.map_append, List.map_cons, hname, ← List.cons_append] at hnames
      exact (List.nodup_append.1 hnames).2.2 _ htaken _ (List.mem_cons_self ..) rfl

theorem fault_of_buildDevice (h : t.buildDevice = .error e) : Schema.device.Fault t.device e := by
  unfold buildDevice at h
  rcases except_bind_eq_error.1 h with h | ⟨identity, hidentity, h⟩
  · exact Schema.fault_of_ofRecords h
  rcases except_bind_eq_error.1 h with hresolve | ⟨⟨n, name⟩, hresolve, h⟩
  · exact Schema.fault_of_resolve hidentity hresolve
  have hidentifies : Schema.device.Identifies t.device n name :=
    Identity.identifies_of_resolve hidentity hresolve
  obtain ⟨blank, hblank, -, hnew⟩ := Device.exists_ofInstance hidentifies.lt_wildcardInstance name
  rcases except_bind_eq_error.1 h with hdevice | ⟨device, hdevice, h⟩
  · exact nomatch hdevice.symm.trans hblank
  cases hdevice.symm.trans hblank
  rcases except_bind_eq_error.1 h with happly | ⟨object, -, h⟩
  · exact hnew.fault_of_applyRecords happly
  · cases h

/-- What is said when a template is refused is wrong with it. -/
theorem fault_of_build (h : t.build = .error e) : t.Fault e := by
  rcases except_bind_eq_error.1 h with hdevice | ⟨d₀, hdevice, h⟩
  · exact .device (fault_of_buildDevice hdevice)
  obtain ⟨front, record, back, d, hobjects, hfront, hrecord⟩ := exists_of_foldlM_eq_error h
  have hd := describes_of_foldlM hdevice hfront
  rcases except_bind_eq_error.1 hrecord with hbuild | ⟨o, ho, hregister⟩
  · refine .object ?_ (ObjectRecord.fault_of_build hbuild)
    rw [hobjects]
    exact List.mem_append_right front (List.mem_cons_self ..)
  have hdescribes := ObjectRecord.describes_of_build ho
  rw [hd.indexed.register_eq] at hregister
  split_ifs at hregister with hid hname
  · cases hregister
    refine .duplicateIdentifier hobjects hdescribes.id?_eq ?_
    have howned : o.id ∈ d.objects.map (·.id) :=
      List.mem_of_ne_of_mem (hdescribes.id_ne hd.device.schema) hid
    rw [hd.map_id?]
    exact List.mem_map_of_mem howned
  · cases hregister
    refine .duplicateName hobjects hdescribes.name?_eq ?_
    rw [hd.map_name?]
    exact List.mem_map_of_mem hname

/-! ## Acceptance -/

theorem Accepted.exists_build (h : t.Accepted) : ∃ d, t.build = .ok d := by
  cases hbuild : t.build with
  | ok d => exact ⟨d, rfl⟩
  | error e => exact absurd h (fault_of_build hbuild).not_accepted

/-- A device is built from a template just if nothing is wrong with it, and else what is said is
    something that is wrong with it. -/
theorem exists_build_iff (t : Template) :
    ((∃ d, t.build = .ok d) ↔ t.Accepted) ∧ ∀ e, t.build = .error e → t.Fault e := by
  refine ⟨⟨?_, Accepted.exists_build⟩, fun e h => fault_of_build h⟩
  rintro ⟨d, h⟩
  exact (describes_of_build h).accepted

/-- A template that says no more than it has to is accepted. One with two inputs that have the same
    number, spelled in two ways, is refused. -/
theorem exists_build_iff_twins :
    let twins : Template := ⟨[⟨"deviceIdentifier", .integer 1⟩, ⟨"Device Name", .text "plant"⟩], [
      ⟨"Analog Input", [⟨"object_identifier", .text "analogInput:3"⟩,
        ⟨"ObjectName", .text "T1"⟩]⟩,
      ⟨"analog-input", [⟨"object-identifier", .integer 3⟩, ⟨"object-name", .text "T2"⟩]⟩]⟩
    minimal.Accepted ∧ ¬ twins.Accepted ∧ ∃ e, twins.build = .error e ∧ twins.Fault e := by
  intro twins
  obtain ⟨d, hminimal, -⟩ := exists_build_minimal
  have hids : ¬ (twins.objects.map (·.id?)).Nodup := by decide +kernel
  have hrefused : ¬ twins.Accepted := fun haccepted => hids haccepted.ids
  refine ⟨(exists_build_iff minimal).1.1 ⟨d, hminimal⟩, hrefused, ?_⟩
  cases hbuild : twins.build with
  | ok d => exact absurd ((exists_build_iff twins).1.1 ⟨d, hbuild⟩) hrefused
  | error e => exact ⟨e, rfl, (exists_build_iff twins).2 e hbuild⟩

end Template

end Bacnet
