import Bacnet.Proofs.Key
import Bacnet.Proofs.Template.Building

set_option autoImplicit false

/-! # Settings that say the same

A number may be set as a number or as a text of it, a truth value as itself or as a word, bits as a
list or as a row of digits; and blanks may stand around a text. What is said (`Sense`) and the
datatype of the property decide what is loaded, and not the way it is written: two settings that say
the same are both rejected, or both load as the one value that carries it
(`Record.concur_of_sense`). -/

namespace Bacnet

/-! ## What settings say -/

/-- What can be said in more than one way. -/
inductive Sense where
  | number (n : Int)
  | truth (b : Bool)
  | bits (bits : List Bool)

/-- The word for a truth value. -/
def truthWord (b : Bool) : List Char := (toString b).toList

/-- The digit for a bit. -/
def bitDigit (b : Bool) : Char := if b then '1' else '0'

namespace Setting

/-- How a bit is set in a list. -/
inductive SaysBit : Setting → Bool → Prop
  | boolean (b : Bool) : SaysBit (.boolean b) b
  | zero : SaysBit (.integer 0) false
  | one : SaysBit (.integer 1) true

/-- How something is set. -/
inductive Says : Setting → Sense → Prop
  | integer (n : Int) : Says (.integer n) (.number n)
  | decimal {s : String} {n : Int} (hs : Surrounds s.toList (decimal n)) :
      Says (.text s) (.number n)
  | boolean (b : Bool) : Says (.boolean b) (.truth b)
  | word {s : String} {b : Bool} (hs : Surrounds s.toList (truthWord b)) : Says (.text s) (.truth b)
  | list {items : List Setting} {bits : List Bool} (hitems : List.Forall₂ SaysBit items bits) :
      Says (.list items) (.bits bits)
  | digits {s : String} {bits : List Bool} (hs : Surrounds s.toList (bits.map bitDigit)) :
      Says (.text s) (.bits bits)

end Setting

namespace Sense

/-- The datatypes that have values for what is said. -/
inductive Suits : Sense → Datatype → Prop
  | unsigned (n : Int) : Suits (.number n) .unsigned
  | signed (n : Int) : Suits (.number n) .signed
  | enumerated (n : Int) : Suits (.number n) .enumerated
  | boolean (b : Bool) : Suits (.truth b) .boolean
  | bitString (bits : List Bool) : Suits (.bits bits) .bitString

/-- Whether a value of a datatype carries just what is said. For a number there need not be one. -/
def Carried : Sense → Datatype → Value → Prop
  | number n, .unsigned, v => ∃ m : UInt32, n = m.toNat ∧ .unsigned m = v
  | number n, .signed, v => ∃ m : Int32, n = m.toInt ∧ .signed m = v
  | number n, .enumerated, v => ∃ m : UInt32, n = m.toNat ∧ .enumerated m = v
  | truth b, .boolean, v => .boolean b = v
  | bits bs, .bitString, v => .bitString (.ofBits bs) = v
  | _, _, _ => False

end Sense

/-! ## Names of codes -/

namespace Enumeration

variable {p : PropertyId} {name : String} {c : Char}

theorem segmentation_ofName?_eq_none (hhead : name.toList.head? = some c)
    (hc : c.isDigit = true) : Segmentation.ofName? name = none := by
  unfold Segmentation.ofName?
  split
  case h_5 => rfl
  all_goals
    cases hhead
    exact absurd hc (by decide)

/-- No name in a table begins with a digit. -/
theorem isDigit_head_names (p : PropertyId) :
    ∀ entry ∈ names p, entry.1.toList.head?.any Char.isDigit = false := by
  unfold names
  split_ifs
  all_goals decide +kernel

theorem code?_eq_none (hhead : name.toList.head? = some c) (hc : c.isDigit = true) :
    code? p name = none := by
  unfold code?
  split_ifs
  · rw [segmentation_ofName?_eq_none hhead hc, Option.map_none]
  · rw [List.lookup_eq_none_iff]
    intro entry hentry
    rw [bne_iff_ne]
    rintro rfl
    have hdigit := isDigit_head_names p entry hentry
    rw [hhead, Option.any_some, hc] at hdigit
    cases hdigit

/-- The sign in front of a negative number is no part of the name that is looked up, but digits are
    no name either. -/
theorem code?_decimal (p : PropertyId) (n : Int) :
    code? p (normalizeKey (.ofList (decimal n))) = none := by
  obtain ⟨c, rest, hdigits, hc⟩ := exists_toDigits_eq_cons n.natAbs
  have hseparator : Key.isSeparator c = false :=
    Key.isSeparator_of_alphanum (isAlphanum_of_isDigit hc)
  have hdrop : (decimal n).dropWhile Key.isSeparator = c :: rest := by
    by_cases h : n < 0
    · rw [decimal_of_neg h, hdigits, List.dropWhile_cons_of_pos rfl,
        List.dropWhile_cons_of_neg (by simp [hseparator])]
    · obtain ⟨m, rfl⟩ := Int.eq_ofNat_of_zero_le (Int.not_lt.1 h)
      rw [Int.natAbs_natCast] at hdigits
      rw [decimal_natCast, hdigits, List.dropWhile_cons_of_neg (by simp [hseparator])]
  have hhead : (normalizeKey (.ofList (decimal n))).toList.head? = some c.toLower := by
    rw [toList_normalizeKey, String.toList_ofList, (bare_decimal n).trimmed_eq, Key.head?_hyphenate,
      hdrop]
    rfl
  rw [toLower_eq_self (Key.not_isUpper_of_isDigit hc)] at hhead
  exact code?_eq_none hhead hc

end Enumeration

/-! ## One value -/

theorem mapM_eq_some_of_forall₂ {α β : Type} {f : α → Option β} {as : List α} {bs : List β}
    (h : List.Forall₂ (fun a b => f a = some b) as bs) : as.mapM f = some bs := by
  induction h with
  | nil => rfl
  | cons hab _ ih => rw [List.mapM_cons, hab, ih]; rfl

theorem bare_truthWord (b : Bool) : Bare (truthWord b) := by
  apply bare_of_forall
  intro c hc
  refine isBlank_of_isAlphanum ?_
  revert c
  rw [← List.all_eq_true]
  cases b <;> decide

theorem isBlank_bitDigit (b : Bool) : isBlank (bitDigit b) = false := by cases b <;> decide

theorem bare_bitDigits (bits : List Bool) : Bare (bits.map bitDigit) := by
  apply bare_of_forall
  intro c hc
  obtain ⟨b, -, rfl⟩ := List.mem_map.1 hc
  exact isBlank_bitDigit b

namespace Setting

theorem boolOfWord?_truthWord (b : Bool) : boolOfWord? (truthWord b) = some b := by
  cases b <;> rfl

theorem toBit?_of_saysBit {item : Setting} {b : Bool} (h : item.SaysBit b) :
    item.toBit? = some b := by
  cases h <;> rfl

theorem bitOfDigit?_bitDigit (b : Bool) : bitOfDigit? (bitDigit b) = some b := by
  cases b <;> rfl

theorem mapM_bitOfDigit? (bits : List Bool) :
    (bits.map bitDigit).mapM bitOfDigit? = some bits := by
  apply mapM_eq_some_of_forall₂
  rw [List.forall₂_map_left_iff, List.forall₂_same]
  exact fun b _ => bitOfDigit?_bitDigit b

variable {setting setting' : Setting} {sense : Sense} {n : Int} {s : String} {core : List Char}

theorem trimmedText?_eq (hs : Surrounds s.toList core) (hcore : Bare core) :
    (text s).trimmedText? = some core := by
  rw [trimmedText?, hs.trimmed_eq hcore]

/-! A number is read as a word just if it is one. -/

theorem toUInt32?_of_number (h : setting.Says (.number n)) :
    setting.toUInt32? = (integer n).toUInt32? := by
  cases h with
  | integer n => rfl
  | @decimal s n hs =>
      show (text s).trimmedText?.bind uint32OfText? = _
      rw [trimmedText?_eq hs (bare_decimal n), Option.bind_some, uint32OfText?_decimal]
      rfl

theorem toInt32?_of_number (h : setting.Says (.number n)) :
    setting.toInt32? = (integer n).toInt32? := by
  cases h with
  | integer n => rfl
  | @decimal s n hs =>
      show (text s).trimmedText?.bind int32OfText? = _
      rw [trimmedText?_eq hs (bare_decimal n), Option.bind_some, int32OfText?_decimal]
      rfl

theorem toCode?_of_number (h : setting.Says (.number n)) (p : PropertyId) :
    setting.toCode? p = (integer n).toUInt32? := by
  cases h with
  | integer n => rfl
  | @decimal s n hs =>
      show ((text s).trimmedText?.bind fun name =>
        (Enumeration.code? p (normalizeKey (.ofList name))).or (uint32OfText? name)) = _
      rw [trimmedText?_eq hs (bare_decimal n), Option.bind_some, Enumeration.code?_decimal,
        Option.none_or, uint32OfText?_decimal]
      rfl

theorem toInstance?_of_number (h : setting.Says (.number n)) (objectType : ObjectType) :
    setting.toInstance? objectType = (integer n).toUInt32? := by
  cases h with
  | integer n => rfl
  | @decimal s n hs =>
      have hcolon : ':' ∉ decimal n := by
        intro hmem
        rcases mem_decimal hmem with heq | hdigit
        · exact absurd heq (by decide)
        · exact absurd hdigit (by decide)
      have hcut : splitOnce ':' s.toList = none :=
        splitOnce_eq_none_iff.2 (hs.notMem (by decide) hcolon)
      rw [toInstance?, hcut]
      show uint32OfText? (trimmed s.toList) = _
      rw [hs.trimmed_eq (bare_decimal n), uint32OfText?_decimal]
      rfl

theorem toBool?_of_truth {b : Bool} (h : setting.Says (.truth b)) : setting.toBool? = some b := by
  cases h with
  | boolean b => rfl
  | @word s b hs =>
      show (text s).trimmedText?.bind boolOfWord? = _
      rw [trimmedText?_eq hs (bare_truthWord b), Option.bind_some, boolOfWord?_truthWord]

theorem toBitString?_of_bits {bits : List Bool} (h : setting.Says (.bits bits)) :
    setting.toBitString? = some (.ofBits bits) := by
  cases h with
  | list hitems =>
      rw [toBitString?, mapM_eq_some_of_forall₂ (hitems.imp fun _ _ => toBit?_of_saysBit),
        Option.map_some]
  | @digits s bits hs =>
      show ((text s).trimmedText?.bind fun digits =>
        (digits.mapM bitOfDigit?).map BitString.ofBits) = _
      rw [trimmedText?_eq hs (bare_bitDigits bits), Option.bind_some, mapM_bitOfDigit?,
        Option.map_some]

theorem toInt32?_integer_eq_some_iff {m : Int32} :
    (integer n).toInt32? = some m ↔ n = m.toInt := by
  have hlow := m.le_toInt
  have hhigh := m.toInt_lt
  simp only [toInt32?, Option.ite_none_right_eq_some, Option.some_inj]
  constructor
  · rintro ⟨⟨hn, hn'⟩, rfl⟩
    rw [Int32.toInt_ofInt_of_le (by omega) (by omega)]
  · rintro rfl
    exact ⟨by omega, m.ofInt_toInt⟩

/-- A setting for a datatype that suits what it says is read as the value that carries this, if
    there is one, and as nothing else. -/
theorem toSimple?_eq_some_iff {p : PropertyId} {datatype : Datatype} {v : Value}
    (h : setting.Says sense) (hsuits : sense.Suits datatype) :
    setting.toSimple? p datatype = some v ↔ sense.Carried datatype v := by
  cases hsuits with
  | unsigned n =>
      show setting.toUInt32?.map Value.unsigned = some v ↔
        ∃ m : UInt32, n = m.toNat ∧ Value.unsigned m = v
      rw [toUInt32?_of_number h, Option.map_eq_some_iff]
      exact exists_congr fun m => and_congr_left' toUInt32?_integer_eq_some_iff
  | signed n =>
      show setting.toInt32?.map Value.signed = some v ↔
        ∃ m : Int32, n = m.toInt ∧ Value.signed m = v
      rw [toInt32?_of_number h, Option.map_eq_some_iff]
      exact exists_congr fun m => and_congr_left' toInt32?_integer_eq_some_iff
  | enumerated n =>
      show (setting.toCode? p).map Value.enumerated = some v ↔
        ∃ m : UInt32, n = m.toNat ∧ Value.enumerated m = v
      rw [toCode?_of_number h, Option.map_eq_some_iff]
      exact exists_congr fun m => and_congr_left' toUInt32?_integer_eq_some_iff
  | boolean b =>
      show setting.toBool?.map Value.boolean = some v ↔ Value.boolean b = v
      rw [toBool?_of_truth h, Option.map_some, Option.some_inj]
  | bitString bits =>
      show setting.toBitString?.map Value.bitString = some v ↔ Value.bitString (.ofBits bits) = v
      rw [toBitString?_of_bits h, Option.map_some, Option.some_inj]

end Setting

theorem Sense.Suits.isArray_eq_false {sense : Sense} {datatype : Datatype}
    (h : sense.Suits datatype) : datatype.isArray = false := by
  cases h <;> rfl

/-! ## Records that say the same -/

/-- Two attempts that end in the same, which is as it should be, or both fail because there is
    nothing that is. -/
inductive Concur {ε α : Type} (P : α → Prop) : Except ε α → Except ε α → Prop
  | ok {a : α} (ha : P a) : Concur P (.ok a) (.ok a)
  | error {e e' : ε} (hnone : ∀ a, ¬ P a) : Concur P (.error e) (.error e')

namespace Concur

variable {ε α : Type} {P : α → Prop} {x x' : Except ε α}

theorem exists_eq_ok (h : Concur P x x') (hP : ∃ a, P a) : ∃ a, P a ∧ x = .ok a ∧ x' = .ok a := by
  cases h with
  | ok ha => exact ⟨_, ha, rfl, rfl⟩
  | error hnone =>
      obtain ⟨a, ha⟩ := hP
      exact absurd ha (hnone a)

theorem exists_eq_error (h : Concur P x x') (hnone : ∀ a, ¬ P a) :
    ∃ e e', x = .error e ∧ x' = .error e' := by
  cases h with
  | ok ha => exact absurd ha (hnone _)
  | error _ => exact ⟨_, _, rfl, rfl⟩

end Concur

/-- Settings that say the same load as the same value, or not at all. -/
theorem Setting.concur_toValue {setting setting' : Setting} {sense : Sense} {datatype : Datatype}
    {p : PropertyId} (h : setting.Says sense) (h' : setting'.Says sense)
    (hsuits : sense.Suits datatype) :
    Concur (sense.Carried datatype) (setting.toValue p datatype) (setting'.toValue p datatype) := by
  have hiff {v : Value} := toSimple?_eq_some_iff (p := p) (v := v) h hsuits
  have hiff' {v : Value} := toSimple?_eq_some_iff (p := p) (v := v) h' hsuits
  have hsimple : setting'.toSimple? p datatype = setting.toSimple? p datatype := by
    ext v
    rw [hiff, hiff']
  have harray := hsuits.isArray_eq_false
  rw [toValue_simple harray, toValue_simple harray, hsimple]
  cases hvalue : setting.toSimple? p datatype with
  | some v => exact .ok (hiff.1 hvalue)
  | none =>
      refine .error fun v hv => ?_
      rw [hiff.2 hv] at hvalue
      cases hvalue

namespace Record

variable {r r' : Record} {sense : Sense} {p : PropertyId}

theorem concur_applyRecord {o : Object} {spec : PropertySpec} (h : r.setting.Says sense)
    (h' : r'.setting.Says sense) (habout : r.about? = some (.property p))
    (habout' : r'.about? = some (.property p)) (hspec : o.schema.spec? p = some spec)
    (hsuits : sense.Suits spec.datatype) :
    Concur (fun o' => p.isComputed = false ∧
        ∃ v, sense.Carried spec.datatype v ∧ o' = o.configure p v)
      (o.applyRecord r) (o.applyRecord r') := by
  rw [about?] at habout habout'
  rw [Object.applyRecord, Object.applyRecord, habout, habout']
  simp only [hspec]
  cases hcomputed : p.isComputed with
  | true => exact .error fun _ hnot => nomatch hnot.1
  | false =>
      have hvalue := Setting.concur_toValue (p := p) h h' hsuits
      rw [if_neg Bool.false_ne_true, if_neg Bool.false_ne_true]
      generalize r.setting.toValue p spec.datatype = x, r'.setting.toValue p spec.datatype = x'
        at hvalue
      cases hvalue with
      | ok hv => exact .ok ⟨rfl, _, hv, rfl⟩
      | error hnone =>
          refine .error ?_
          rintro _ ⟨-, v, hv, -⟩
          exact hnone v hv

theorem concur_add {objectType : ObjectType} {identity : Identity} {n : Int}
    (h : r.setting.Says (.number n)) (h' : r'.setting.Says (.number n))
    (habout : r.about? = some .identifier) (habout' : r'.about? = some .identifier) :
    Concur (fun identity' => ∃ m : UInt32, n = m.toNat ∧ m < ObjectId.wildcardInstance ∧
        identity' = { identity with instanceNumber := some m })
      (identity.add objectType r) (identity.add objectType r') := by
  have hiff (m : UInt32) : ((Setting.integer n).toUInt32?.filter (· < ObjectId.wildcardInstance))
      = some m ↔ n = m.toNat ∧ m < ObjectId.wildcardInstance := by
    rw [Option.filter_eq_some_iff, Setting.toUInt32?_integer_eq_some_iff, decide_eq_true_eq]
  rw [about?] at habout habout'
  rw [Identity.add, Identity.add, habout, habout']
  simp only [Setting.toOwnInstance?, Setting.toInstance?_of_number h,
    Setting.toInstance?_of_number h']
  cases hown : (Setting.integer n).toUInt32?.filter (· < ObjectId.wildcardInstance) with
  | some m =>
      obtain ⟨hm, hlt⟩ := (hiff m).1 hown
      exact .ok ⟨m, hm, hlt, rfl⟩
  | none =>
      refine .error ?_
      rintro _ ⟨m, hm, hlt, -⟩
      rw [(hiff m).2 ⟨hm, hlt⟩] at hown
      cases hown

/-- What a record says and the datatype of the property decide what is loaded, and not the way the
    record is written. -/
theorem concur_of_sense (h : r.setting.Says sense) (h' : r'.setting.Says sense) :
    (∀ p datatype, sense.Suits datatype → Concur (sense.Carried datatype)
      (r.setting.toValue p datatype) (r'.setting.toValue p datatype)) ∧
    (∀ (o : Object) p spec, r.about? = some (.property p) → r'.about? = some (.property p) →
      o.schema.spec? p = some spec → sense.Suits spec.datatype →
      Concur (fun o' => p.isComputed = false ∧
          ∃ v, sense.Carried spec.datatype v ∧ o' = o.configure p v)
        (o.applyRecord r) (o.applyRecord r')) ∧
    ∀ objectType (identity : Identity) n, sense = .number n →
      r.about? = some .identifier → r'.about? = some .identifier →
      Concur (fun identity' => ∃ m : UInt32, n = m.toNat ∧ m < ObjectId.wildcardInstance ∧
          identity' = { identity with instanceNumber := some m })
        (identity.add objectType r) (identity.add objectType r') := by
  refine ⟨fun p datatype hsuits => Setting.concur_toValue h h' hsuits, ?_, ?_⟩
  · intro o p spec habout habout' hspec hsuits
    exact concur_applyRecord h h' habout habout' hspec hsuits
  · rintro objectType identity n rfl habout habout'
    exact concur_add h h' habout habout'

/-- A unit is set by a number and by a text of it. No object has a negative number. -/
theorem concur_of_sense_units :
    let r : Record := ⟨"units", .integer 64⟩
    let r' : Record := ⟨"Units", .text " 64\t"⟩
    let negative : Record := ⟨"object-identifier", .integer (-1)⟩
    let negative' : Record := ⟨"objectIdentifier", .text "-1 "⟩
    (∃ o, Object.ofId (.ofParts .analogInput 3) "T1" = .ok o ∧
      o.applyRecord r = .ok (o.configure .units (.enumerated 64)) ∧
      o.applyRecord r' = .ok (o.configure .units (.enumerated 64))) ∧
    ∃ e e', Identity.unsaid.add .analogInput negative = .error e ∧
      Identity.unsaid.add .analogInput negative' = .error e' := by
  intro r r' negative negative'
  constructor
  · have h' : r'.setting.Says (.number 64) :=
      .decimal ⟨[' '], ['\t'], by simp [isBlank], by simp [isBlank], by decide +kernel⟩
    obtain ⟨-, hrecord, -⟩ := concur_of_sense (r := r) (.integer 64) h'
    obtain ⟨o, ho, hblank⟩ := Object.exists_ofId (s := .analogInput) (by decide) 3 "T1"
    have hspec : o.schema.spec? .units = some ⟨.units, .enumerated, true⟩ := by
      rw [hblank.schema]
      rfl
    have hcarried : Sense.Carried (.number 64) .enumerated (.enumerated 64) := ⟨64, rfl, rfl⟩
    have hunits := hrecord o .units _ (by decide +kernel) (by decide +kernel) hspec (.enumerated 64)
    obtain ⟨o', ⟨-, v, ⟨m, hm, rfl⟩, rfl⟩, hr, hr'⟩ :=
      hunits.exists_eq_ok ⟨_, rfl, _, hcarried, rfl⟩
    have hm' : m = 64 := UInt32.toNat_inj.1 (Int.ofNat.inj hm).symm
    subst hm'
    exact ⟨o, ho, hr, hr'⟩
  · have h' : negative'.setting.Says (.number (-1)) :=
      .decimal ⟨[], [' '], by simp, by simp [isBlank], by decide +kernel⟩
    obtain ⟨-, -, hidentifier⟩ := concur_of_sense (r := negative) (.integer (-1)) h'
    refine (hidentifier .analogInput .unsaid _ rfl (by decide +kernel)
      (by decide +kernel)).exists_eq_error ?_
    rintro _ ⟨m, hm, -⟩
    omega

end Record

end Bacnet
