import Bacnet.Number.Decimal
import Bacnet.Text.Blank
import Mathlib.Data.List.DropRight

set_option autoImplicit false

/-! # Letters, blanks around a text, and integers in decimals

What is written into a configuration by hand may have blanks around it. They are taken off at both
ends and nowhere else, so a text that has none at its ends comes out of any blanks around it
(`Surrounds.trimmed_eq`). An integer that is written in decimals is read back as itself, and as a
word just if it fits one (`uint32OfText?_decimal`, `int32OfText?_decimal`). A small letter that
becomes a capital becomes itself again (`toLower_toUpper`). -/

namespace Bacnet

/-! ## Letters -/

section

variable {c : Char}

theorem isUpper_iff : c.isUpper = true ↔ 65 ≤ c.toNat ∧ c.toNat ≤ 90 := by
  show decide (65 ≤ c.toNat ∧ c.toNat ≤ 90) = true ↔ _
  rw [decide_eq_true_iff]

theorem isLower_iff : c.isLower = true ↔ 97 ≤ c.toNat ∧ c.toNat ≤ 122 := by
  show (decide (97 ≤ c.toNat) && decide (c.toNat ≤ 122)) = true ↔ _
  rw [Bool.and_eq_true, decide_eq_true_iff, decide_eq_true_iff]

theorem isDigit_iff : c.isDigit = true ↔ 48 ≤ c.toNat ∧ c.toNat ≤ 57 := Char.isDigit_iff_toNat

theorem isAlpha_iff : c.isAlpha = true ↔ c.isUpper = true ∨ c.isLower = true :=
  Bool.or_eq_true_iff

theorem isAlphanum_iff : c.isAlphanum = true ↔ c.isAlpha = true ∨ c.isDigit = true :=
  Bool.or_eq_true_iff

theorem isAlphanum_of_isUpper (h : c.isUpper = true) : c.isAlphanum = true :=
  isAlphanum_iff.2 (.inl (isAlpha_iff.2 (.inl h)))

theorem isAlphanum_of_isLower (h : c.isLower = true) : c.isAlphanum = true :=
  isAlphanum_iff.2 (.inl (isAlpha_iff.2 (.inr h)))

theorem isAlphanum_of_isDigit (h : c.isDigit = true) : c.isAlphanum = true :=
  isAlphanum_iff.2 (.inr h)

theorem not_isUpper_of_isLower (h : c.isLower = true) : ¬ c.isUpper = true := by
  rw [isLower_iff] at h
  rw [isUpper_iff]
  omega

theorem toNat_toLower (h : c.isUpper = true) : c.toLower.toNat = c.toNat + 32 := by
  have hbounds := isUpper_iff.1 h
  have hshift : ('a'.val - 'A'.val).toNat = 32 := by decide
  delta Char.toLower
  rw [dif_pos (show c.val ≥ 'A'.val ∧ c.val ≤ 'Z'.val from hbounds), Char.toNat,
    UInt32.toNat_add, hshift, Char.toNat_val]
  omega

/-- What is no capital stays. -/
theorem toLower_eq_self (h : ¬ c.isUpper = true) : c.toLower = c :=
  dif_neg fun hbounds => h (isUpper_iff.2 hbounds)

theorem toNat_toUpper (h : c.isLower = true) : c.toUpper.toNat + 32 = c.toNat := by
  have hbounds := isLower_iff.1 h
  have hshift : ('A'.val - 'a'.val).toNat = 2 ^ 32 - 32 := by decide
  delta Char.toUpper
  rw [dif_pos (show 'a'.val ≤ c.val ∧ c.val ≤ 'z'.val from hbounds), Char.toNat,
    UInt32.toNat_add, hshift, Char.toNat_val]
  omega

theorem isLower_toLower (h : c.isUpper = true) : c.toLower.isLower = true := by
  rw [isLower_iff, toNat_toLower h]
  rw [isUpper_iff] at h
  omega

theorem isUpper_toUpper (h : c.isLower = true) : c.toUpper.isUpper = true := by
  have hnumber := toNat_toUpper h
  rw [isLower_iff] at h
  rw [isUpper_iff]
  omega

theorem toLower_toUpper (h : c.isLower = true) : c.toUpper.toLower = c := by
  have hnumber := toNat_toLower (isUpper_toUpper h)
  rw [toNat_toUpper h] at hnumber
  exact Char.toNat_inj.1 hnumber

end

/-! ## Blanks -/

theorem isBlank_of_visible {c : Char} (h : 0x21 ≤ c.toNat ∧ c.toNat ≤ 0x7E) :
    isBlank c = false := by
  obtain ⟨hlow, hhigh⟩ := h
  simp only [isBlank, Bool.or_eq_false_iff, Bool.and_eq_false_iff, beq_eq_false_iff_ne,
    decide_eq_false_iff_not]
  omega

theorem isBlank_of_isAlphanum {c : Char} (h : c.isAlphanum = true) : isBlank c = false := by
  rw [isAlphanum_iff, isAlpha_iff, isUpper_iff, isLower_iff, isDigit_iff] at h
  refine isBlank_of_visible ?_
  omega

theorem isBlank_of_isDigit {c : Char} (h : c.isDigit = true) : isBlank c = false :=
  isBlank_of_isAlphanum (isAlphanum_of_isDigit h)

/-- A text that neither begins nor ends in a blank. -/
structure Bare (text : List Char) : Prop where
  head : ∀ c ∈ text.head?, isBlank c = false
  last : ∀ c ∈ text.getLast?, isBlank c = false

theorem bare_of_forall {text : List Char} (h : ∀ c ∈ text, isBlank c = false) : Bare text where
  head c hc := h c (List.mem_of_mem_head? hc)
  last c hc := h c (List.mem_of_mem_getLast? hc)

variable {text core front behind : List Char}

theorem dropWhile_isBlank_of_head (h : ∀ c ∈ text.head?, isBlank c = false) :
    text.dropWhile isBlank = text := by
  cases text with
  | nil => rfl
  | cons c text =>
      have hc := h c rfl
      rw [List.dropWhile_cons_of_neg (by simp [hc])]

theorem rdropWhile_isBlank_of_last (h : ∀ c ∈ text.getLast?, isBlank c = false) :
    text.rdropWhile isBlank = text := by
  rw [List.rdropWhile, dropWhile_isBlank_of_head, List.reverse_reverse]
  intro c hc
  rw [List.head?_reverse] at hc
  exact h c hc

theorem rdropWhile_isBlank_append (h : ∀ c ∈ behind, isBlank c = true) :
    (text ++ behind).rdropWhile isBlank = text.rdropWhile isBlank := by
  rw [List.rdropWhile, List.rdropWhile, List.reverse_append, List.dropWhile_append_of_pos]
  intro c hc
  exact h c (List.mem_reverse.1 hc)

/-- The blanks that a text begins with go, and the ones that it ends in. -/
theorem trimmed_append (hbare : Bare core) (hne : core ≠ []) (front : List Char)
    (hbehind : ∀ c ∈ behind, isBlank c = true) :
    trimmed (front ++ core ++ behind) = front.dropWhile isBlank ++ core := by
  have hstart : (front ++ (core ++ behind)).dropWhile isBlank
      = front.dropWhile isBlank ++ (core ++ behind) := by
    have hcore : (core ++ behind).dropWhile isBlank = core ++ behind := by
      apply dropWhile_isBlank_of_head
      rw [List.head?_append_of_ne_nil _ hne]
      exact hbare.head
    rw [List.dropWhile_append]
    split
    · next hempty => rw [hcore, List.isEmpty_iff.1 hempty, List.nil_append]
    · rfl
  show ((front ++ core ++ behind).dropWhile isBlank).rdropWhile isBlank = _
  rw [List.append_assoc, hstart, ← List.append_assoc, rdropWhile_isBlank_append hbehind]
  apply rdropWhile_isBlank_of_last
  rw [List.getLast?_append_of_ne_nil _ hne]
  exact hbare.last

theorem Bare.trimmed_eq (h : Bare text) : trimmed text = text := by
  by_cases hne : text = []
  · rw [hne]
    rfl
  · have htrim : trimmed ([] ++ text ++ []) = _ := trimmed_append h hne [] nofun
    rwa [List.nil_append, List.append_nil] at htrim

theorem bare_trimmed (text : List Char) : Bare (trimmed text) where
  head := by
    intro c hc
    have hne : trimmed text ≠ [] := by
      rintro hnil
      rw [hnil] at hc
      cases hc
    -- What is left without the blanks at the end begins as the text without those in front.
    obtain ⟨blanks, hblanks⟩ : trimmed text <+: text.dropWhile isBlank :=
      List.rdropWhile_prefix isBlank _
    have hhead := List.head?_dropWhile_not isBlank text
    rw [← hblanks, List.head?_append_of_ne_nil _ hne, Option.mem_def.1 hc] at hhead
    simpa using hhead
  last := by
    intro c hc
    have hlast := List.head?_dropWhile_not isBlank (text.dropWhile isBlank).reverse
    rw [trimmed, List.getLast?_reverse] at hc
    rw [Option.mem_def.1 hc] at hlast
    simpa using hlast

theorem mem_of_mem_trimmed {c : Char} (h : c ∈ trimmed text) : c ∈ text := by
  rw [trimmed, List.mem_reverse] at h
  have hfront := List.mem_reverse.1 (List.dropWhile_subset isBlank h)
  exact List.dropWhile_subset isBlank hfront

theorem length_trimmed_lt {c : Char} (hhead : text.head? = some c) (hc : isBlank c = true) :
    (trimmed text).length < text.length := by
  cases text with
  | nil => cases hhead
  | cons d text =>
      cases hhead
      rw [trimmed, List.length_reverse, List.dropWhile_cons_of_pos hc]
      have hle : ∀ l : List Char, (l.dropWhile isBlank).length ≤ l.length := fun l =>
        (List.dropWhile_sublist isBlank).length_le
      have hbehind := hle (text.dropWhile isBlank).reverse
      have hfront := hle text
      rw [List.length_reverse] at hbehind
      rw [List.length_cons]
      omega

/-- A text with nothing but blanks around another one. -/
def Surrounds (text core : List Char) : Prop :=
  ∃ front behind, (∀ c ∈ front, isBlank c = true) ∧ (∀ c ∈ behind, isBlank c = true) ∧
    text = front ++ core ++ behind

theorem Surrounds.trimmed_eq (h : Surrounds text core) (hbare : Bare core) :
    trimmed text = core := by
  obtain ⟨front, behind, hfront, hbehind, rfl⟩ := h
  by_cases hne : core = []
  · subst hne
    have hall : (front ++ [] ++ behind).dropWhile isBlank = [] := by
      rw [List.append_nil, List.dropWhile_append_of_pos hfront]
      exact List.dropWhile_eq_nil_iff.2 hbehind
    rw [trimmed, hall]
    rfl
  · rw [trimmed_append hbare hne front hbehind, List.dropWhile_eq_nil_iff.2 hfront,
      List.nil_append]

theorem Surrounds.notMem {c : Char} (h : Surrounds text core) (hblank : isBlank c = false)
    (hc : c ∉ core) : c ∉ text := by
  obtain ⟨front, behind, hfront, hbehind, rfl⟩ := h
  have hnot : ∀ {blanks : List Char}, (∀ c ∈ blanks, isBlank c = true) → c ∉ blanks := by
    intro blanks hblanks hmem
    rw [hblanks c hmem] at hblank
    cases hblank
  intro hmem
  rcases List.mem_append.1 hmem with hmem | hmem
  · rcases List.mem_append.1 hmem with hmem | hmem
    · exact hnot hfront hmem
    · exact hc hmem
  · exact hnot hbehind hmem

/-! ## Decimals -/

/-- An integer as it is written in decimals, with a minus in front of a negative one. -/
def decimal (n : Int) : List Char := (toString n).toList

theorem decimal_natCast (n : Nat) : decimal n = Nat.toDigits 10 n := by
  rw [decimal, Int.toString_eq_repr, Int.repr_eq_if, if_pos (Int.natCast_nonneg n),
    Int.toNat_natCast, Nat.toList_repr]

theorem decimal_of_neg {n : Int} (h : n < 0) : decimal n = '-' :: Nat.toDigits 10 n.natAbs := by
  have habs : (-n).toNat = n.natAbs := by omega
  rw [decimal, Int.toString_eq_repr, Int.repr_eq_if, if_neg (Int.not_le.2 h), String.toList_append,
    Nat.toList_repr, habs]
  rfl

theorem isDigit_of_mem_toDigits {n : Nat} {c : Char} (h : c ∈ Nat.toDigits 10 n) :
    c.isDigit = true :=
  Nat.isDigit_of_mem_toDigits (by decide) (by decide) h

/-- The decimals of a number are a digit and others behind it. -/
theorem exists_toDigits_eq_cons (n : Nat) :
    ∃ c rest, Nat.toDigits 10 n = c :: rest ∧ c.isDigit = true := by
  obtain ⟨c, rest, hdigits⟩ := List.exists_cons_of_ne_nil (Nat.toDigits_ne_nil (n := n) (b := 10))
  refine ⟨c, rest, hdigits, isDigit_of_mem_toDigits (n := n) ?_⟩
  rw [hdigits]
  exact List.mem_cons_self ..

theorem natOfText?_toDigits (n : Nat) : natOfText? (Nat.toDigits 10 n) = some n := by
  have hall : (Nat.toDigits 10 n).all Char.isDigit = true :=
    List.all_eq_true.2 fun c hc => isDigit_of_mem_toDigits hc
  have hvalue : ofDigits (Nat.toDigits 10 n) = n := by
    have hread := Nat.ofDigitChars_ten_toDigits (n := n)
    rw [Nat.ofDigitChars_eq_foldl] at hread
    simpa [ofDigits, digitValue, Nat.mul_comm] using hread
  rw [natOfText?, if_neg (by simp [hall, Nat.toDigits_ne_nil]), hvalue]

theorem ne_sign_of_isDigit {c : Char} (h : c.isDigit = true) : c ≠ '-' ∧ c ≠ '+' := by
  constructor
  all_goals
    rintro rfl
    exact absurd h (by decide)

theorem spanSign_of_isDigit {c : Char} (h : c.isDigit = true) (rest : List Char) :
    spanSign (c :: rest) = (false, c :: rest) := by
  obtain ⟨hminus, hplus⟩ := ne_sign_of_isDigit h
  unfold spanSign
  split
  · next heq => exact absurd (List.cons.inj heq).1 hminus
  · next heq => exact absurd (List.cons.inj heq).1 hplus
  · rfl

theorem intOfText?_decimal (n : Int) : intOfText? (decimal n) = some n := by
  by_cases h : n < 0
  · have hread := natOfText?_toDigits n.natAbs
    simp only [intOfText?, decimal_of_neg h, spanSign, hread]
    show some (-(n.natAbs : Int)) = some n
    rw [Int.ofNat_natAbs_of_nonpos (Int.le_of_lt h), Int.neg_neg]
  · obtain ⟨m, rfl⟩ := Int.eq_ofNat_of_zero_le (Int.not_lt.1 h)
    obtain ⟨c, rest, hdigits, hc⟩ := exists_toDigits_eq_cons m
    have hread := natOfText?_toDigits m
    rw [hdigits] at hread
    simp only [intOfText?, decimal_natCast, hdigits, spanSign_of_isDigit hc, hread]
    rfl

/-- An integer in decimals is read as a word just if it is one. -/
theorem uint32OfText?_decimal (n : Int) : uint32OfText? (decimal n)
    = if 0 ≤ n ∧ n < 0x100000000 then some (.ofNat n.toNat) else none := by
  rw [uint32OfText?, intOfText?_decimal, Option.bind_some]
  by_cases h : n < 0
  · rw [if_pos (by rw [decimal_of_neg h]; rfl), if_neg (by omega)]
  · obtain ⟨m, rfl⟩ := Int.eq_ofNat_of_zero_le (Int.not_lt.1 h)
    obtain ⟨c, rest, hdigits, hc⟩ := exists_toDigits_eq_cons m
    have hminus : (decimal m).head? ≠ some '-' := by
      rw [decimal_natCast, hdigits, List.head?_cons]
      exact fun heq => (ne_sign_of_isDigit hc).1 (Option.some_inj.1 heq)
    rw [if_neg hminus]
    simp

/-- An integer in decimals is read as a signed word just if it is one. -/
theorem int32OfText?_decimal (n : Int) : int32OfText? (decimal n)
    = if -0x80000000 ≤ n ∧ n < 0x80000000 then some (.ofInt n) else none := by
  rw [int32OfText?, intOfText?_decimal, Option.bind_some]

theorem mem_decimal {n : Int} {c : Char} (h : c ∈ decimal n) : c = '-' ∨ c.isDigit = true := by
  by_cases hneg : n < 0
  · rw [decimal_of_neg hneg] at h
    exact (List.mem_cons.1 h).imp_right isDigit_of_mem_toDigits
  · obtain ⟨m, rfl⟩ := Int.eq_ofNat_of_zero_le (Int.not_lt.1 hneg)
    rw [decimal_natCast] at h
    exact .inr (isDigit_of_mem_toDigits h)

theorem bare_decimal (n : Int) : Bare (decimal n) := by
  apply bare_of_forall
  intro c hc
  rcases mem_decimal hc with rfl | hdigit
  · decide
  · exact isBlank_of_isDigit hdigit

/-- A text with a character in it that stands in no integer is no word. -/
theorem uint32OfText?_eq_none {c : Char} (hc : c ∈ text)
    (h : c.isDigit = false ∧ c ≠ '-' ∧ c ≠ '+') : uint32OfText? text = none := by
  obtain ⟨hdigit, hminus, hplus⟩ := h
  have hmem : c ∈ (spanSign text).2 := by
    unfold spanSign
    split
    · exact (List.mem_cons.1 hc).resolve_left hminus
    · exact (List.mem_cons.1 hc).resolve_left hplus
    · exact hc
  have hnat : natOfText? (spanSign text).2 = none := by
    rw [natOfText?, if_pos]
    refine .inr fun hall => ?_
    rw [List.all_eq_true] at hall
    exact absurd (hall c hmem) (by simp [hdigit])
  have hint : intOfText? text = none := by
    unfold intOfText?
    split
    · next rest hspan => rw [hspan] at hnat; rw [hnat]; rfl
    · next rest hspan => rw [hspan] at hnat; rw [hnat]; rfl
  rw [uint32OfText?, hint]
  split <;> rfl

end Bacnet
