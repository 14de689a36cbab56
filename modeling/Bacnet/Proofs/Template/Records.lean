import Bacnet.Proofs.Template
import Mathlib.Data.List.Induction

set_option autoImplicit false

/-! # What records say

A record is about what its key stands for, however the key is spelled, and of several records about
the same thing the last one counts (`Record.last?`). Whether a record is right is a matter of the
record and the schema alone (`Schema.Takes`), and what is wrong with one that is not decides which
error there is (`Schema.RecordFault`). -/

namespace Bacnet

/-! ## Steps that may fail, behind other steps -/

section Steps

variable {α β ε : Type} {step : β → α → Except ε β}

theorem except_bind_eq_error {γ : Type} {x : Except ε α} {f : α → Except ε γ} {e : ε} :
    (x >>= f) = .error e ↔ x = .error e ∨ ∃ a, x = .ok a ∧ f a = .error e := by
  cases x with
  | error e' => simp [bind, Except.bind]
  | ok a => simp [bind, Except.bind]

theorem foldlM_concat_eq_ok {l : List α} {a : α} {b b' : β} :
    (l ++ [a]).foldlM step b = .ok b' ↔ ∃ b₁, l.foldlM step b = .ok b₁ ∧ step b₁ a = .ok b' := by
  rw [List.foldlM_append, except_bind_eq_ok]
  refine exists_congr fun b₁ => and_congr_right fun _ => ?_
  rw [List.foldlM_cons, except_bind_eq_ok]
  constructor
  · rintro ⟨b₂, hstep, hrest⟩
    cases hrest
    exact hstep
  · intro hstep
    exact ⟨b', hstep, rfl⟩

/-- What holds of nothing, and with every step of one more, holds of all that was gone through. -/
theorem foldlM_history (P : List α → β → Prop) {b b' : β} (hb : P [] b)
    (hstep : ∀ front a b₁ b₂, P front b₁ → step b₁ a = .ok b₂ → P (front ++ [a]) b₂) (l : List α)
    (h : l.foldlM step b = .ok b') : P l b' := by
  induction l using List.reverseRecOn generalizing b' with
  | nil => cases h; exact hb
  | append_singleton l a ih =>
      obtain ⟨b₁, hfront, hlast⟩ := foldlM_concat_eq_ok.1 h
      exact hstep l a b₁ b' (ih hfront) hlast

/-- Steps that fail do so at one of them, and what is before it goes well. -/
theorem exists_of_foldlM_eq_error {l : List α} {b : β} {e : ε} (h : l.foldlM step b = .error e) :
    ∃ front a back b', l = front ++ a :: back ∧ front.foldlM step b = .ok b' ∧
      step b' a = .error e := by
  induction l generalizing b with
  | nil => cases h
  | cons a l ih =>
      rw [List.foldlM_cons] at h
      cases hfirst : step b a with
      | error e' =>
          rw [hfirst] at h
          cases h
          exact ⟨[], a, l, b, rfl, rfl, hfirst⟩
      | ok b₁ =>
          rw [hfirst] at h
          obtain ⟨front, a', back, b', hl, hfront, hfails⟩ := ih h
          refine ⟨a :: front, a', back, b', congrArg (a :: ·) hl, ?_, hfails⟩
          rw [List.foldlM_cons, hfirst]
          exact hfront

end Steps

/-! ## Lists side by side -/

section Lists

variable {α β γ : Type} {R : α → β → Prop} {as : List α} {bs : List β}

theorem exists_of_mem_of_forall₂ (h : List.Forall₂ R as bs) {a : α} (ha : a ∈ as) :
    ∃ b ∈ bs, R a b := by
  induction h with
  | nil => cases ha
  | cons hab _ ih =>
      rcases List.mem_cons.1 ha with rfl | ha
      · exact ⟨_, List.mem_cons_self .., hab⟩
      · obtain ⟨b, hb, hrest⟩ := ih ha
        exact ⟨b, List.mem_cons_of_mem _ hb, hrest⟩

theorem map_eq_map_of_forall₂ {f : α → γ} {g : β → γ} (hR : ∀ a b, R a b → f a = g b)
    (h : List.Forall₂ R as bs) : as.map f = bs.map g := by
  induction h with
  | nil => rfl
  | cons hab _ ih => rw [List.map_cons, List.map_cons, hR _ _ hab, ih]

theorem rel_find?_of_forall₂ {p : α → Bool} {q : β → Bool} (hpq : ∀ a b, R a b → p a = q b)
    (h : List.Forall₂ R as bs) : Option.Rel R (as.find? p) (bs.find? q) := by
  induction h with
  | nil => exact .none
  | cons hab _ ih =>
      rw [List.find?_cons, List.find?_cons, hpq _ _ hab]
      split
      · exact .some hab
      · exact ih

/-- Two lists stand as two others do that they stand beside. -/
theorem forall₂_of_forall₂ {γ' : Type} {S : α → γ → Prop} {T : β → γ' → Prop}
    {Q : γ → γ' → Prop} (hQ : ∀ a b c c', R a b → S a c → T b c' → Q c c') {cs : List γ}
    {cs' : List γ'} (h : List.Forall₂ R as bs) (hS : List.Forall₂ S as cs)
    (hT : List.Forall₂ T bs cs') : List.Forall₂ Q cs cs' := by
  induction h generalizing cs cs' with
  | nil =>
      cases hS
      cases hT
      exact .nil
  | cons hab _ ih =>
      cases hS with
      | cons hac hS =>
          cases hT with
          | cons hbc hT => exact .cons (hQ _ _ _ _ hab hac hbc) (ih hS hT)

end Lists

/-! ## Instance numbers -/

theorem splitOnce_cons (separator c : Char) (text : List Char) :
    splitOnce separator (c :: text) = if c = separator then some ([], text)
      else (splitOnce separator text).map fun cut => (c :: cut.1, cut.2) := by
  by_cases hc : c = separator
  · simp [splitOnce, hc]
  · rw [if_neg hc]
    simp only [splitOnce, List.takeWhile_cons, hc, ne_eq, not_false_eq_true, decide_true,
      ↓reduceIte, List.length_cons, List.drop_succ_cons]
    split <;> simp_all

/-- A text is cut at the first of the separators in it. -/
theorem splitOnce_eq_some_iff {separator : Char} {text front back : List Char} :
    splitOnce separator text = some (front, back) ↔
      text = front ++ separator :: back ∧ separator ∉ front := by
  induction text generalizing front with
  | nil => simp [splitOnce]
  | cons c text ih =>
      rw [splitOnce_cons]
      by_cases hc : c = separator
      · subst hc
        rw [if_pos rfl]
        constructor
        · intro h
          cases h
          exact ⟨rfl, List.not_mem_nil⟩
        · rintro ⟨htext, hfront⟩
          cases front with
          | nil => cases htext; rfl
          | cons f front => cases htext; exact absurd (List.mem_cons_self ..) hfront
      · rw [if_neg hc, Option.map_eq_some_iff]
        constructor
        · rintro ⟨⟨front', back'⟩, hcut, h⟩
          cases h
          obtain ⟨rfl, hfront⟩ := ih.1 hcut
          exact ⟨rfl, List.not_mem_cons_of_ne_of_not_mem (Ne.symm hc) hfront⟩
        · rintro ⟨htext, hfront⟩
          cases front with
          | nil => cases htext; exact absurd rfl hc
          | cons f front =>
              cases htext
              exact ⟨(front, back), ih.2 ⟨rfl, List.not_mem_of_not_mem_cons hfront⟩, rfl⟩

theorem splitOnce_eq_none_iff {separator : Char} {text : List Char} :
    splitOnce separator text = none ↔ separator ∉ text := by
  induction text with
  | nil => simp [splitOnce]
  | cons c text ih =>
      rw [splitOnce_cons]
      by_cases hc : c = separator
      · simp [hc]
      · simp [hc, ih, Ne.symm hc]

namespace Setting

/-- What a setting with something in it for a name says. -/
def text? : Setting → Option String
  | text s => some s
  | _ => none

theorem text?_eq_some_iff {setting : Setting} {s : String} :
    setting.text? = some s ↔ setting = text s := by
  cases setting with
  | text s' => simp [text?]
  | _ => simp [text?]

/-- A setting for the instance number of an object of a type: the number, or a text of it, which may
    stand behind the type and a colon. -/
inductive NamesInstance (objectType : ObjectType) : Setting → UInt32 → Prop
  | number {i : Int} {n : UInt32} (hn : i = n.toNat) : NamesInstance objectType (.integer i) n
  | bare {s : String} {n : UInt32} (hcolon : ':' ∉ s.toList)
      (hn : uint32OfText? (trimmed s.toList) = some n) : NamesInstance objectType (.text s) n
  | typed {s : String} {type number : List Char} {n : UInt32}
      (hs : s.toList = type ++ ':' :: number) (hcolon : ':' ∉ type)
      (htype : ObjectType.ofText? type = some objectType)
      (hn : uint32OfText? (trimmed number) = some n) : NamesInstance objectType (.text s) n

variable {objectType : ObjectType} {setting : Setting} {n : UInt32}

theorem toUInt32?_integer_eq_some_iff {i : Int} :
    (integer i).toUInt32? = some n ↔ i = n.toNat := by
  have hn := n.toNat_lt
  simp only [toUInt32?, Option.ite_none_right_eq_some, Option.some_inj]
  constructor
  · rintro ⟨⟨hlow, hhigh⟩, rfl⟩
    rw [UInt32.toNat_ofNat_of_lt' (show i.toNat < 2 ^ 32 by omega)]
    omega
  · rintro rfl
    refine ⟨by omega, ?_⟩
    rw [Int.toNat_natCast, UInt32.ofNat_toNat]

theorem toInstance?_eq_some_iff :
    setting.toInstance? objectType = some n ↔ setting.NamesInstance objectType n := by
  cases setting with
  | integer i =>
      rw [toInstance?, toUInt32?_integer_eq_some_iff]
      exact ⟨.number, fun h => by cases h; assumption⟩
  | text s =>
      rw [toInstance?]
      cases hcut : splitOnce ':' s.toList with
      | none =>
          have hcolon := splitOnce_eq_none_iff.1 hcut
          constructor
          · exact .bare hcolon
          · intro h
            cases h with
            | bare _ hn => exact hn
            | typed hs _ _ _ => simp [hs] at hcolon
      | some cut =>
          obtain ⟨type, number⟩ := cut
          obtain ⟨hs, hcolon⟩ := splitOnce_eq_some_iff.1 hcut
          simp only [Option.ite_none_right_eq_some]
          constructor
          · rintro ⟨htype, hn⟩
            exact .typed hs hcolon htype hn
          · intro h
            cases h with
            | bare hnone _ => simp [hs] at hnone
            | typed hs' hcolon' htype hn =>
                -- There is only one first colon.
                rw [splitOnce_eq_some_iff.2 ⟨hs', hcolon'⟩] at hcut
                cases hcut
                exact ⟨htype, hn⟩
  | _ => exact ⟨(nomatch ·), (nomatch ·)⟩

theorem toOwnInstance?_eq_some_iff : setting.toOwnInstance? objectType = some n ↔
    setting.NamesInstance objectType n ∧ n < ObjectId.wildcardInstance := by
  rw [toOwnInstance?, Option.filter_eq_some_iff, toInstance?_eq_some_iff, decide_eq_true_eq]

end Setting

/-! ## Records about the same thing -/

namespace Record

/-- What a record is about; nothing if its key stands for nothing. -/
def about? (record : Record) : Option Key := Key.ofText? record.key

/-- What the last of several records about something sets. -/
def last? (records : List Record) (key : Key) : Option Setting :=
  ((records.filter (·.about? = some key)).getLast?).map (·.setting)

variable {records : List Record} {record : Record} {key : Key}

theorem last?_append (front back : List Record) (key : Key) :
    last? (front ++ back) key = (last? back key).or (last? front key) := by
  simp only [last?, List.filter_append, List.getLast?_append]
  cases (back.filter (·.about? = some key)).getLast? <;> rfl

theorem last?_singleton (record : Record) (key : Key) :
    last? [record] key = if record.about? = some key then some record.setting else none := by
  by_cases h : record.about? = some key <;> simp [last?, h]

theorem last?_cons (record : Record) (records : List Record) (key : Key) :
    last? (record :: records) key =
      (last? records key).or (if record.about? = some key then some record.setting else none) := by
  rw [← List.singleton_append, last?_append, last?_singleton]

/-- A record overrides the ones about the same thing in front of it, and no others. -/
theorem last?_concat (records : List Record) (record : Record) (key : Key) :
    last? (records ++ [record]) key =
      if record.about? = some key then some record.setting else last? records key := by
  rw [last?_append, last?_singleton]
  split_ifs <;> rfl

theorem last?_eq_none_iff : last? records key = none ↔ ∀ r ∈ records, r.about? ≠ some key := by
  simp [last?]

theorem last?_isSome_iff :
    (last? records key).isSome = true ↔ ∃ r ∈ records, r.about? = some key := by
  rw [← Option.ne_none_iff_isSome, ne_eq, last?_eq_none_iff]
  push Not
  rfl

theorem exists_of_last?_eq_some {setting : Setting} (h : last? records key = some setting) :
    ∃ r ∈ records, r.about? = some key ∧ r.setting = setting := by
  obtain ⟨r, hr, rfl⟩ := Option.map_eq_some_iff.1 h
  obtain ⟨hmem, habout⟩ := List.mem_filter.1 (List.mem_of_getLast? hr)
  exact ⟨r, hmem, of_decide_eq_true habout, rfl⟩

theorem last?_eq_some_of_exists (h : ∃ r ∈ records, r.about? = some key) :
    ∃ r ∈ records, r.about? = some key ∧ last? records key = some r.setting := by
  obtain ⟨setting, hlast⟩ := Option.isSome_iff_exists.1 (last?_isSome_iff.2 h)
  obtain ⟨r, hr, habout, rfl⟩ := exists_of_last?_eq_some hlast
  exact ⟨r, hr, habout, hlast⟩

end Record

/-! ## Right and wrong records -/

namespace Schema

/-- Whether a record is right where the records about an object with the schema stand: it says which
    object this is, or sets a property of the schema that is not computed to a value. -/
inductive Takes (s : Schema) (record : Record) : Prop
  | identifier {n : UInt32} (habout : record.about? = some .identifier)
      (hn : record.setting.NamesInstance s.objectType n) (hlt : n < ObjectId.wildcardInstance)
  | name {name : String} (habout : record.about? = some .name)
      (htext : record.setting = .text name) (hne : name ≠ "")
  | type {type : String} (habout : record.about? = some .type)
      (htext : record.setting = .text type)
      (htype : ObjectType.ofText? type.toList = some s.objectType)
  | property {p : PropertyId} {spec : PropertySpec} {v : Value}
      (habout : record.about? = some (.property p)) (hcomputed : p.isComputed = false)
      (hspec : s.spec? p = some spec) (hv : record.setting.toValue p spec.datatype = .ok v)

/-- What is wrong with a record, and the error that says so. -/
inductive RecordFault (s : Schema) (record : Record) : ConfigError → Prop
  | notAnInstance (habout : record.about? = some .identifier)
      (hnone : ∀ n, record.setting.NamesInstance s.objectType n → ¬ n < ObjectId.wildcardInstance) :
      RecordFault s record (.invalidValue record.key .notAnInstance)
  | notAName (habout : record.about? = some .name)
      (hnone : ∀ name, record.setting = .text name → name = "") :
      RecordFault s record (.invalidValue record.key .notAName)
  | otherType (habout : record.about? = some .type)
      (hnone : ∀ type, record.setting = .text type →
        ObjectType.ofText? type.toList ≠ some s.objectType) :
      RecordFault s record (.invalidValue record.key .otherType)
  | unknownKey (habout : record.about? = none) :
      RecordFault s record (.unknownProperty s.objectType record.key)
  | computed {p : PropertyId} (habout : record.about? = some (.property p))
      (hcomputed : p.isComputed = true) : RecordFault s record (.computedProperty record.key)
  | foreign {p : PropertyId} (habout : record.about? = some (.property p))
      (hcomputed : p.isComputed = false) (hspec : s.spec? p = none) :
      RecordFault s record (.unknownProperty s.objectType record.key)
  | notOfDatatype {p : PropertyId} {spec : PropertySpec} {fault : SettingFault}
      (habout : record.about? = some (.property p)) (hcomputed : p.isComputed = false)
      (hspec : s.spec? p = some spec)
      (hfault : record.setting.toValue p spec.datatype = .error fault) :
      RecordFault s record (.invalidValue record.key fault)

variable {s : Schema} {record record' : Record} {e : ConfigError}

/-- A record with a fault is not right. -/
theorem RecordFault.not_takes (h : s.RecordFault record e) : ¬ s.Takes record := by
  intro htakes
  cases htakes with
  | identifier habout hn hlt =>
      cases h with
      | notAnInstance _ hnone => exact hnone _ hn hlt
      | _ habout' => simp [habout] at habout'
  | name habout htext hne =>
      cases h with
      | notAName _ hnone => exact hne (hnone _ htext)
      | _ habout' => simp [habout] at habout'
  | type habout htext htype =>
      cases h with
      | otherType _ hnone => exact hnone _ htext htype
      | _ habout' => simp [habout] at habout'
  | property habout hcomputed hspec hv =>
      cases h with
      | computed habout' hcomputed' =>
          cases habout.symm.trans habout'
          exact absurd (hcomputed.symm.trans hcomputed') Bool.false_ne_true
      | foreign habout' _ hspec' =>
          cases habout.symm.trans habout'
          exact nomatch hspec.symm.trans hspec'
      | notOfDatatype habout' _ hspec' hfault =>
          cases habout.symm.trans habout'
          cases hspec.symm.trans hspec'
          exact nomatch hv.symm.trans hfault
      | _ habout' => simp [habout] at habout'

/-- Whether a record is right does not depend on the spelling of its key. -/
theorem Takes.of_about_eq (h : s.Takes record) (habout : record'.about? = record.about?)
    (hsetting : record'.setting = record.setting) : s.Takes record' := by
  cases h with
  | identifier h hn hlt => exact .identifier (habout.trans h) (hsetting ▸ hn) hlt
  | name h htext hne => exact .name (habout.trans h) (hsetting.trans htext) hne
  | type h htext htype => exact .type (habout.trans h) (hsetting.trans htext) htype
  | property h hcomputed hspec hv =>
      exact .property (habout.trans h) hcomputed hspec (hsetting ▸ hv)

end Schema

end Bacnet
