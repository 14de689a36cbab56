import Bacnet.Proofs.Template.Records

set_option autoImplicit false

/-! # Which object records are about

The first pass over records takes up identifiers, names and types, checks each of them, and keeps
the last identifier and the last name (`Identity.ofRecords_eq_ok`); both have to be there
(`Schema.Identifies`). If the pass fails, then at a record that is wrong. -/

namespace Bacnet

namespace Record

/-- Whether a record is about which object this is, and not about a property or nothing. -/
def isAboutIdentity (record : Record) : Bool :=
  match record.about? with
  | some .identifier | some .name | some .type => true
  | some (.property _) | none => false

/-- The instance number that records about an object of a type say. -/
def instanceNumber? (objectType : ObjectType) (records : List Record) : Option UInt32 :=
  (last? records .identifier).bind (·.toOwnInstance? objectType)

/-- The name that records say. -/
def name? (records : List Record) : Option String := (last? records .name).bind (·.text?)

/-- The identifier that records about an object of a type say. -/
def id? (objectType : ObjectType) (records : List Record) : Option ObjectId :=
  (instanceNumber? objectType records).map (.ofParts objectType)

end Record

namespace Schema

variable {s : Schema} {record : Record} {records : List Record}

/-! ## Right records say something -/

theorem Takes.exists_instance (h : s.Takes record) (habout : record.about? = some .identifier) :
    ∃ n, record.setting.toOwnInstance? s.objectType = some n := by
  cases h with
  | identifier _ hn hlt => exact ⟨_, Setting.toOwnInstance?_eq_some_iff.2 ⟨hn, hlt⟩⟩
  | _ habout' => simp [habout] at habout'

theorem Takes.exists_name (h : s.Takes record) (habout : record.about? = some .name) :
    ∃ name, record.setting.text? = some name := by
  cases h with
  | name _ htext _ => exact ⟨_, Setting.text?_eq_some_iff.2 htext⟩
  | _ habout' => simp [habout] at habout'

section

variable (htakes : ∀ r ∈ records, r.isAboutIdentity = true → s.Takes r)

include htakes

theorem instanceNumber?_ne_none (h : ∃ r ∈ records, r.about? = some .identifier) :
    Record.instanceNumber? s.objectType records ≠ none := by
  obtain ⟨r, hr, habout, hlast⟩ := Record.last?_eq_some_of_exists h
  have htaken := htakes r hr (by simp [Record.isAboutIdentity, habout])
  obtain ⟨n, hn⟩ := htaken.exists_instance habout
  simp [Record.instanceNumber?, hlast, hn]

theorem name?_ne_none (h : ∃ r ∈ records, r.about? = some .name) :
    Record.name? records ≠ none := by
  obtain ⟨r, hr, habout, hlast⟩ := Record.last?_eq_some_of_exists h
  have htaken := htakes r hr (by simp [Record.isAboutIdentity, habout])
  obtain ⟨name, hname⟩ := htaken.exists_name habout
  simp [Record.name?, hlast, hname]

end

/-- Records say which object they are about, and those that do are right. -/
structure Identifies (s : Schema) (records : List Record) (n : UInt32) (name : String) : Prop where
  instanceNumber : Record.instanceNumber? s.objectType records = some n
  name : Record.name? records = some name
  takes : ∀ r ∈ records, r.isAboutIdentity = true → s.Takes r

variable {n : UInt32} {name : String}

theorem Identifies.lt_wildcardInstance (h : s.Identifies records n name) :
    n < ObjectId.wildcardInstance := by
  obtain ⟨setting, -, hn⟩ := Option.bind_eq_some_iff.1 h.instanceNumber
  exact (Setting.toOwnInstance?_eq_some_iff.1 hn).2

theorem Identifies.exists_identifier (h : s.Identifies records n name) :
    ∃ r ∈ records, r.about? = some .identifier := by
  obtain ⟨setting, hlast, -⟩ := Option.bind_eq_some_iff.1 h.instanceNumber
  exact Record.last?_isSome_iff.1 (Option.isSome_of_eq_some hlast)

theorem Identifies.exists_name (h : s.Identifies records n name) :
    ∃ r ∈ records, r.about? = some .name := by
  obtain ⟨setting, hlast, -⟩ := Option.bind_eq_some_iff.1 h.name
  exact Record.last?_isSome_iff.1 (Option.isSome_of_eq_some hlast)

end Schema

namespace Identity

variable {s : Schema} {record : Record} {records : List Record} {identity identity' : Identity}
  {e : ConfigError} {n : UInt32} {name : String}

/-! ## One record -/

/-- What a record adds to what is said, if it is right. -/
theorem add_eq_ok (h : add s.objectType identity record = .ok identity') :
    (record.isAboutIdentity = true → s.Takes record) ∧
    identity'.instanceNumber = (if record.about? = some .identifier then
      record.setting.toOwnInstance? s.objectType else identity.instanceNumber) ∧
    identity'.name =
      if record.about? = some .name then record.setting.text? else identity.name := by
  unfold add at h
  split at h
  · next habout =>
      replace habout : record.about? = some .identifier := habout
      split at h
      · next n hn =>
          cases h
          obtain ⟨hnames, hlt⟩ := Setting.toOwnInstance?_eq_some_iff.1 hn
          exact ⟨fun _ => .identifier habout hnames hlt, by simp [habout, hn], by simp [habout]⟩
      · cases h
  · next habout =>
      replace habout : record.about? = some .name := habout
      split at h
      · next name hsetting =>
          split at h
          · cases h
          · next hne =>
              cases h
              refine ⟨fun _ => .name habout hsetting (by simpa using hne), by simp [habout], ?_⟩
              simp [habout, hsetting, Setting.text?]
      · cases h
  · next habout =>
      replace habout : record.about? = some .type := habout
      split at h
      · next type hsetting =>
          split at h
          · next htype =>
              cases h
              exact ⟨fun _ => .type habout hsetting htype, by simp [habout], by simp [habout]⟩
          · cases h
      · cases h
  · next p habout =>
      replace habout : record.about? = some (.property p) := habout
      cases h
      simp [Record.isAboutIdentity, habout]
  · next habout =>
      replace habout : record.about? = none := habout
      cases h
      simp [Record.isAboutIdentity, habout]

theorem add_eq_error (h : add s.objectType identity record = .error e) :
    s.RecordFault record e := by
  unfold add at h
  split at h
  · next habout =>
      split at h
      · cases h
      · next hnone =>
          cases h
          refine .notAnInstance habout fun n hn hlt => ?_
          exact nomatch hnone.symm.trans (Setting.toOwnInstance?_eq_some_iff.2 ⟨hn, hlt⟩)
  · next habout =>
      split at h
      · next name hsetting =>
          split at h
          · next hempty =>
              cases h
              refine .notAName habout fun name' hsetting' => ?_
              cases hsetting.symm.trans hsetting'
              simpa using hempty
          · cases h
      · next hnone =>
          cases h
          exact .notAName habout fun name hsetting => absurd hsetting (hnone name)
  · next habout =>
      split at h
      · next type hsetting =>
          split at h
          · cases h
          · next htype =>
              cases h
              refine .otherType habout fun type' hsetting' => ?_
              cases hsetting.symm.trans hsetting'
              exact htype
      · next hnone =>
          cases h
          exact .otherType habout fun type hsetting => absurd hsetting (hnone type)
  · cases h
  · cases h

/-! ## All records -/

/-- All records together say what the last ones do. -/
theorem ofRecords_eq_ok (h : ofRecords s.objectType records = .ok identity) :
    (∀ r ∈ records, r.isAboutIdentity = true → s.Takes r) ∧
    identity.instanceNumber = Record.instanceNumber? s.objectType records ∧
    identity.name = Record.name? records := by
  refine foldlM_history (fun front (identity : Identity) =>
    (∀ r ∈ front, r.isAboutIdentity = true → s.Takes r) ∧
    identity.instanceNumber = Record.instanceNumber? s.objectType front ∧
    identity.name = Record.name? front) ⟨nofun, rfl, rfl⟩ ?_ records h
  rintro front r identity₁ identity₂ ⟨htakes, hinstance, hname⟩ hadd
  obtain ⟨htaken, hinstance', hname'⟩ := add_eq_ok hadd
  refine ⟨?_, ?_, ?_⟩
  · intro r' hr'
    rcases List.mem_append.1 hr' with hr' | hr'
    · exact htakes r' hr'
    · rw [List.mem_singleton.1 hr']
      exact htaken
  · rw [hinstance', hinstance, Record.instanceNumber?, Record.instanceNumber?, Record.last?_concat]
    split_ifs <;> rfl
  · rw [hname', hname, Record.name?, Record.name?, Record.last?_concat]
    split_ifs <;> rfl

theorem ofRecords_eq_error (h : ofRecords s.objectType records = .error e) :
    ∃ r ∈ records, s.RecordFault r e := by
  obtain ⟨front, r, back, identity, rfl, -, hadd⟩ := exists_of_foldlM_eq_error h
  exact ⟨r, List.mem_append_right front (List.mem_cons_self ..), add_eq_error hadd⟩

/-! ## Identifier and name -/

theorem resolve_eq_ok {objectType : ObjectType} (h : identity.resolve objectType = .ok (n, name)) :
    identity.instanceNumber = some n ∧ identity.name = some name := by
  unfold resolve at h
  split at h
  · cases h
  · next hinstance =>
      split at h
      · cases h
      · next hname =>
          cases h
          exact ⟨hinstance, hname⟩

theorem resolve_eq_error {objectType : ObjectType} (h : identity.resolve objectType = .error e) :
    (identity.instanceNumber = none ∧ e = .missingIdentifier objectType) ∨
    ∃ n, identity.instanceNumber = some n ∧ identity.name = none ∧
      e = .missingName (.ofParts objectType n) := by
  unfold resolve at h
  split at h
  · next hinstance =>
      cases h
      exact .inl ⟨hinstance, rfl⟩
  · next n hinstance =>
      split at h
      · next hname =>
          cases h
          exact .inr ⟨n, hinstance, hname, rfl⟩
      · cases h

theorem identifies_of_resolve (h : ofRecords s.objectType records = .ok identity)
    (hresolve : identity.resolve s.objectType = .ok (n, name)) : s.Identifies records n name := by
  obtain ⟨htakes, hinstance, hname⟩ := ofRecords_eq_ok h
  obtain ⟨hn, hsaid⟩ := resolve_eq_ok hresolve
  exact ⟨hinstance.symm.trans hn, hname.symm.trans hsaid, htakes⟩

end Identity

end Bacnet
