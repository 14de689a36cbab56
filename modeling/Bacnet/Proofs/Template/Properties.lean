import Bacnet.Proofs.Registry
import Bacnet.Proofs.Resolution
import Bacnet.Proofs.Template.Identity

set_option autoImplicit false

/-! # What records configure

The second pass over records sets one property after the other, so that in the end a property has
what the last record about it says (`Applied`), and then the required properties that nothing has
been said about get their defaults (`applyRecords_eq_ok`). Defaults that an object has from before
do not show (`Defaulted`). -/

namespace Bacnet

namespace Schema

variable {s : Schema} {record : Record} {records : List Record} {p : PropertyId}

/-! ## Values -/

/-- What a setting for a property says, by the datatype that the schema declares. -/
def convert? (s : Schema) (p : PropertyId) (setting : Setting) : Option Value :=
  (s.spec? p).bind fun spec => (setting.toValue p spec.datatype).toOption

/-- What records say about a property. -/
def given? (s : Schema) (records : List Record) (p : PropertyId) : Option Value :=
  (Record.last? records (.property p)).bind (s.convert? p)

/-- What a property has that nothing is said about: its default if every object must carry it. -/
def default? (s : Schema) (p : PropertyId) : Option Value :=
  if p.isComputed then none else ((s.spec? p).filter (·.required)).map (·.defaultValue)

theorem Takes.exists_convert (h : s.Takes record) (habout : record.about? = some (.property p)) :
    ∃ v, s.convert? p record.setting = some v := by
  cases h with
  | property habout' _ hspec hv =>
      cases habout.symm.trans habout'
      exact ⟨_, by rw [convert?, hspec, Option.bind_some, hv]; rfl⟩
  | _ habout' => simp [habout] at habout'

/-- Behind a right record a property has what the record says, or else what it had. -/
theorem given?_concat (h : record.isAboutIdentity = false → s.Takes record) :
    s.given? (records ++ [record]) p = (if record.about? = some (.property p) then
      s.convert? p record.setting else none).or (s.given? records p) := by
  rw [given?, given?, Record.last?_concat]
  by_cases habout : record.about? = some (.property p)
  · have hproperty : record.isAboutIdentity = false := by simp [Record.isAboutIdentity, habout]
    obtain ⟨v, hv⟩ := (h hproperty).exists_convert habout
    rw [if_pos habout, if_pos habout, Option.bind_some, hv, Option.some_or]
  · rw [if_neg habout, if_neg habout, Option.none_or]

/-- No property stands twice in a schema. -/
theorem nodup_specs : ∀ s ∈ all, (s.specs.map (·.property)).Nodup := by decide

theorem spec?_eq_some_iff (hs : s ∈ all) {spec : PropertySpec} :
    s.spec? p = some spec ↔ spec ∈ s.specs ∧ spec.property = p :=
  find?_key_eq_some_iff (nodup_specs s hs)

theorem find?_required (hs : s ∈ all) (p : PropertyId) :
    s.required.find? (·.property == p) = (s.spec? p).filter (·.required) := by
  have hrequired : (s.required.map (·.property)).Nodup :=
    (nodup_specs s hs).sublist (List.filter_sublist.map _)
  ext spec
  rw [find?_key_eq_some_iff hrequired, Option.filter_eq_some_iff, spec?_eq_some_iff hs, required,
    List.mem_filter]
  exact and_right_comm

end Schema

namespace Object

variable {o o' : Object} {record : Record} {records : List Record} {e : ConfigError}

theorem schema_mem (o : Object) : o.schema ∈ Schema.all := List.mem_of_find?_eq_some o.schema_eq

/-! ## One record -/

/-- An object that differs in nothing but its values. -/
structure SameIdentity (o o' : Object) : Prop where
  id : o'.id = o.id
  name : o'.name = o.name
  schema : o'.schema = o.schema

theorem SameIdentity.refl (o : Object) : o.SameIdentity o := ⟨rfl, rfl, rfl⟩

theorem SameIdentity.trans {o₁ o₂ o₃ : Object} (h : o₁.SameIdentity o₂) (h' : o₂.SameIdentity o₃) :
    o₁.SameIdentity o₃ :=
  ⟨h'.id.trans h.id, h'.name.trans h.name, h'.schema.trans h.schema⟩

/-- What a record sets, if it is right. -/
theorem applyRecord_eq_ok (h : o.applyRecord record = .ok o') :
    (record.isAboutIdentity = false → o.schema.Takes record) ∧ o.SameIdentity o' ∧
    ∀ p, o'.properties.get? p = (if record.about? = some (.property p) then
      o.schema.convert? p record.setting else none).or (o.properties.get? p) := by
  unfold applyRecord at h
  split at h
  · cases h
  · next p habout =>
      replace habout : record.about? = some (.property p) := habout
      split at h
      · cases h
      · next hcomputed =>
          split at h
          · cases h
          · next spec hspec =>
              split at h
              · next v hv =>
                  cases h
                  refine ⟨fun _ => .property habout (by simpa using hcomputed) hspec hv,
                    ⟨rfl, rfl, rfl⟩, fun q => ?_⟩
                  rw [configure, Table.get?_set]
                  by_cases hq : p = q
                  · subst hq
                    simp [habout, Schema.convert?, hspec, hv, Except.toOption]
                  · simp [habout, hq]
              · cases h
  all_goals
    next habout =>
      cases h
      simp [SameIdentity.refl, Record.isAboutIdentity, show record.about? = _ from habout]

theorem applyRecord_eq_error (h : o.applyRecord record = .error e) :
    o.schema.RecordFault record e := by
  unfold applyRecord at h
  split at h
  · next habout =>
      cases h
      exact .unknownKey habout
  · next p habout =>
      split at h
      · next hcomputed =>
          cases h
          exact .computed habout hcomputed
      · next hcomputed =>
          rw [Bool.not_eq_true] at hcomputed
          split at h
          · next hspec =>
              cases h
              exact .foreign habout hcomputed hspec
          · next spec hspec =>
              split at h
              · cases h
              · next fault hfault =>
                  cases h
                  exact .notOfDatatype habout hcomputed hspec hfault
  all_goals cases h

/-! ## All records -/

/-- An object with all that records say about its properties. -/
structure Applied (o : Object) (records : List Record) (o' : Object) : Prop where
  same : o.SameIdentity o'
  get? : ∀ p, o'.properties.get? p = (o.schema.given? records p).or (o.properties.get? p)
  takes : ∀ r ∈ records, r.isAboutIdentity = false → o.schema.Takes r

theorem Applied.nil (o : Object) : o.Applied [] o := ⟨.refl o, fun _ => rfl, nofun⟩

theorem Applied.concat {o₁ : Object} (h : o.Applied records o₁)
    (hrecord : o₁.applyRecord record = .ok o') : o.Applied (records ++ [record]) o' := by
  obtain ⟨htakes, hsame, hget⟩ := applyRecord_eq_ok hrecord
  rw [h.same.schema] at htakes hget
  refine ⟨h.same.trans hsame, fun p => ?_, fun r hr => ?_⟩
  · rw [hget, h.get?, Schema.given?_concat htakes, Option.or_assoc]
  · rcases List.mem_append.1 hr with hr | hr
    · exact h.takes r hr
    · rw [List.mem_singleton.1 hr]
      exact htakes

theorem applied_of_foldlM (h : records.foldlM applyRecord o = .ok o') : o.Applied records o' :=
  foldlM_history (fun front o₁ => o.Applied front o₁) (.nil o)
    (fun _ _ _ _ hfront hrecord => hfront.concat hrecord) records h

/-! ## Defaults -/

theorem sameIdentity_fillDefault (o : Object) (spec : PropertySpec) :
    o.SameIdentity (o.fillDefault spec) := by
  unfold fillDefault
  split <;> exact ⟨rfl, rfl, rfl⟩

theorem get?_fillDefault (o : Object) (spec : PropertySpec) (p : PropertyId) :
    (o.fillDefault spec).properties.get? p = (o.properties.get? p).or
      (if p.isComputed then none else if spec.property = p then some spec.defaultValue
        else none) := by
  unfold fillDefault
  by_cases hp : spec.property = p
  · subst hp
    rw [if_pos rfl]
    split_ifs <;> simp [Table.get?_setDefault]
  · rw [if_neg hp]
    split_ifs <;> simp [Table.get?_setDefault, hp]

theorem sameIdentity_fillDefaults (o : Object) : o.SameIdentity o.fillDefaults := by
  have hall : ∀ specs : List PropertySpec, o.SameIdentity (specs.foldl fillDefault o) := by
    intro specs
    induction specs using List.reverseRecOn with
    | nil => exact .refl o
    | append_singleton specs spec ih =>
        rw [List.foldl_concat]
        exact ih.trans (sameIdentity_fillDefault _ spec)
  exact hall o.schema.required

theorem get?_foldl_fillDefault (specs : List PropertySpec) (o : Object) (p : PropertyId) :
    (specs.foldl fillDefault o).properties.get? p = (o.properties.get? p).or
      (if p.isComputed then none else (specs.find? (·.property == p)).map (·.defaultValue)) := by
  induction specs generalizing o with
  | nil => simp
  | cons spec specs ih =>
      rw [List.foldl_cons, ih, get?_fillDefault, Option.or_assoc, List.find?_cons]
      -- Of several defaults for one property the first would count.
      by_cases hp : spec.property = p
      · rw [if_pos hp, beq_iff_eq.2 hp]
        split_ifs <;> simp
      · rw [if_neg hp, beq_eq_false_iff_ne.2 hp]
        split_ifs <;> simp

/-- A property without a value has its default in the end. -/
theorem get?_fillDefaults (o : Object) (p : PropertyId) :
    o.fillDefaults.properties.get? p = (o.properties.get? p).or (o.schema.default? p) := by
  rw [fillDefaults, get?_foldl_fillDefault, Schema.find?_required o.schema_mem, Schema.default?]

/-- An object that has no values but defaults. -/
def Defaulted (o : Object) : Prop :=
  ∀ p v, o.properties.get? p = some v → o.schema.default? p = some v

theorem defaulted_of_ofId {id : ObjectId} {name : String} (h : ofId id name = .ok o) :
    o.Defaulted := by
  unfold ofId at h
  split at h
  · cases h
  · cases h
    exact nofun

theorem Defaulted.fillDefaults (h : o.Defaulted) : o.fillDefaults.Defaulted := by
  intro p v hv
  rw [get?_fillDefaults, Option.or_eq_some_iff] at hv
  rw [(sameIdentity_fillDefaults o).schema]
  rcases hv with hv | ⟨-, hv⟩
  · exact h p v hv
  · exact hv

/-- With all records applied, an object has what they say, and defaults where they say nothing. -/
theorem applyRecords_eq_ok (ho : o.Defaulted) (h : o.applyRecords records = .ok o') :
    o.SameIdentity o' ∧ (∀ r ∈ records, r.isAboutIdentity = false → o.schema.Takes r) ∧
    ∀ p, o'.properties.get? p = (o.schema.given? records p).or (o.schema.default? p) := by
  obtain ⟨filled, hfilled, rfl⟩ := except_map_eq_ok.1 h
  have happlied := applied_of_foldlM hfilled
  refine ⟨happlied.same.trans (sameIdentity_fillDefaults filled), happlied.takes, fun p => ?_⟩
  rw [get?_fillDefaults, happlied.get?, happlied.same.schema, Option.or_assoc]
  cases hv : o.properties.get? p with
  | none => rw [Option.none_or]
  | some v => rw [ho p v hv, Option.some_or]

theorem applyRecords_eq_error (h : o.applyRecords records = .error e) :
    ∃ r ∈ records, o.schema.RecordFault r e := by
  cases hfilled : records.foldlM applyRecord o with
  | ok filled =>
      rw [applyRecords, hfilled] at h
      cases h
  | error e' =>
      rw [applyRecords, hfilled] at h
      cases h
      obtain ⟨front, r, back, o₁, rfl, hfront, hrecord⟩ := exists_of_foldlM_eq_error hfilled
      refine ⟨r, List.mem_append_right front (List.mem_cons_self ..), ?_⟩
      rw [← (applied_of_foldlM hfront).same.schema]
      exact applyRecord_eq_error hrecord

end Object

end Bacnet
