import Bacnet.Proofs.Text
import Bacnet.Template.Key

set_option autoImplicit false

/-! # The one spelling of a key

Spelling a key in the one way leaves no capitals in it, and no separators but single hyphens behind
other characters (`Settled`), and in such a text it finds nothing more to do. But blanks are taken
off only at the ends of the key as it is written: a blank that separators stand in front of becomes
the first character, and the next pass takes it off. So a second pass changes nothing just if the
first character that is no separator is no blank (`normalizeKey_normalizeKey_iff`). -/

namespace Bacnet

namespace Key

variable {last last' : Option Char} {lower : Bool} {c : Char} {text rest : List Char}

/-! ## Characters -/

/-- Whether nothing is written yet that a hyphen could stand behind. -/
def AtStart (last : Option Char) : Prop := last.isNone = true ∨ last = some '-'

theorem atStart_none : AtStart none := .inl rfl

theorem atStart_hyphen : AtStart (some '-') := .inr rfl

theorem not_atStart_of_ne (h : c ≠ '-') : ¬ AtStart (some c) := by
  rintro (hnone | hhyphen)
  · exact nomatch hnone
  · exact h (Option.some.inj hhyphen)

theorem ne_hyphen_of_not_isSeparator (h : isSeparator c = false) : c ≠ '-' := by
  rintro rfl
  exact nomatch h

theorem isSeparator_of_alphanum (h : c.isAlphanum = true) : isSeparator c = false := by
  cases hc : isSeparator c with
  | false => rfl
  | true =>
      simp only [isSeparator, Bool.or_eq_true, beq_iff_eq] at hc
      rcases hc with (rfl | rfl) | rfl
      all_goals exact absurd h (by decide)

theorem not_isDigit_of_isAlpha (h : c.isAlpha = true) : ¬ c.isDigit = true := by
  rw [isAlpha_iff, isUpper_iff, isLower_iff] at h
  rw [isDigit_iff]
  omega

theorem not_isUpper_of_isDigit (h : c.isDigit = true) : ¬ c.isUpper = true := by
  intro hupper
  exact not_isDigit_of_isAlpha (isAlpha_iff.2 (.inl hupper)) h

theorem isSeparator_toLower (h : c.isUpper = true) : isSeparator c.toLower = false :=
  isSeparator_of_alphanum (isAlphanum_of_isLower (isLower_toLower h))

theorem isBlank_toLower (c : Char) : isBlank c.toLower = isBlank c := by
  by_cases h : c.isUpper = true
  · rw [isBlank_of_isAlphanum (isAlphanum_of_isUpper h),
      isBlank_of_isAlphanum (isAlphanum_of_isLower (isLower_toLower h))]
  · rw [toLower_eq_self h]

/-! ## One character after the other -/

theorem hyphenate_of_separator (h : isSeparator c = true) (hstart : AtStart last) :
    hyphenate last lower (c :: rest) = hyphenate last false rest := by
  rw [hyphenate, if_pos h]
  exact if_pos hstart

theorem hyphenate_of_separator_inside (h : isSeparator c = true) (hstart : ¬ AtStart last) :
    hyphenate last lower (c :: rest) = '-' :: hyphenate (some '-') false rest := by
  rw [hyphenate, if_pos h]
  exact if_neg hstart

theorem hyphenate_of_isUpper (h : c.isUpper = true) :
    hyphenate last lower (c :: rest) = if lower then
      '-' :: c.toLower :: hyphenate (some c.toLower) false rest
      else c.toLower :: hyphenate (some c.toLower) false rest := by
  have hseparator : isSeparator c = false :=
    isSeparator_of_alphanum (isAlphanum_of_isUpper h)
  rw [hyphenate, if_neg (by simp [hseparator]), if_pos h]

theorem hyphenate_of_other (hseparator : isSeparator c = false) (hupper : c.isUpper = false) :
    hyphenate last lower (c :: rest)
      = c :: hyphenate (some c) (c.isLower || c.isDigit) rest := by
  rw [hyphenate, if_neg (by simp [hseparator]), if_neg (by simp [hupper])]

/-- What is written last matters only for whether a hyphen could stand behind it. -/
theorem hyphenate_congr (h : AtStart last ↔ AtStart last') :
    hyphenate last lower text = hyphenate last' lower text := by
  induction text generalizing lower with
  | nil => rfl
  | cons c rest ih =>
      by_cases hseparator : isSeparator c = true
      · by_cases hstart : AtStart last
        · rw [hyphenate_of_separator hseparator hstart,
            hyphenate_of_separator hseparator (h.1 hstart)]
          exact ih
        · rw [hyphenate_of_separator_inside hseparator hstart,
            hyphenate_of_separator_inside hseparator fun hstart' => hstart (h.2 hstart')]
      · rw [hyphenate, hyphenate, if_neg hseparator, if_neg hseparator]

/-- Separators in front of everything are passed over. -/
theorem hyphenate_dropWhile (text : List Char) :
    hyphenate none false text = hyphenate none false (text.dropWhile isSeparator) := by
  induction text with
  | nil => rfl
  | cons c rest ih =>
      by_cases hseparator : isSeparator c = true
      · rw [hyphenate_of_separator hseparator atStart_none, List.dropWhile_cons_of_pos hseparator]
        exact ih
      · rw [List.dropWhile_cons_of_neg hseparator]

/-! ## Nothing more to do -/

/-- Behind a last character there are no capitals, and no separators but single hyphens behind
    other characters. -/
def Settled : (last : Option Char) → List Char → Prop
  | _, [] => True
  | last, c :: rest =>
    c.isUpper = false ∧ (isSeparator c = true → c = '-' ∧ ¬ AtStart last) ∧ Settled (some c) rest

theorem settled_hyphenate (hlower : lower = true → ¬ AtStart last) (text : List Char) :
    Settled last (hyphenate last lower text) := by
  induction text generalizing last lower with
  | nil => trivial
  | cons c rest ih =>
      by_cases hseparator : isSeparator c = true
      · by_cases hstart : AtStart last
        · rw [hyphenate_of_separator hseparator hstart]
          exact ih nofun
        · rw [hyphenate_of_separator_inside hseparator hstart]
          exact ⟨rfl, fun _ => ⟨rfl, hstart⟩, ih nofun⟩
      rw [Bool.not_eq_true] at hseparator
      by_cases hupper : c.isUpper = true
      · have hsmall : Settled last (c.toLower :: hyphenate (some c.toLower) false rest) ∧
            Settled (some '-') (c.toLower :: hyphenate (some c.toLower) false rest) := by
          have hseparator' := isSeparator_toLower hupper
          have hupper' : c.toLower.isUpper = false :=
            Bool.eq_false_iff.2 (not_isUpper_of_isLower (isLower_toLower hupper))
          constructor
          all_goals exact ⟨hupper', fun h => absurd (hseparator'.symm.trans h) nofun, ih nofun⟩
        rw [hyphenate_of_isUpper hupper]
        split
        · next hl => exact ⟨rfl, fun _ => ⟨rfl, hlower hl⟩, hsmall.2⟩
        · exact hsmall.1
      · rw [Bool.not_eq_true] at hupper
        rw [hyphenate_of_other hseparator hupper]
        refine ⟨hupper, fun h => absurd (hseparator.symm.trans h) nofun, ih fun _ => ?_⟩
        exact not_atStart_of_ne (ne_hyphen_of_not_isSeparator hseparator)

theorem Settled.hyphenate_eq (h : Settled last text) : hyphenate last lower text = text := by
  induction text generalizing last lower with
  | nil => rfl
  | cons c rest ih =>
      obtain ⟨hupper, hhyphen, hrest⟩ := h
      by_cases hseparator : isSeparator c = true
      · obtain ⟨rfl, hstart⟩ := hhyphen hseparator
        rw [hyphenate_of_separator_inside hseparator hstart, ih hrest]
      · rw [Bool.not_eq_true] at hseparator
        rw [hyphenate_of_other hseparator hupper, ih hrest]

theorem Settled.isUpper_eq_false (h : Settled last text) (hc : c ∈ text) : c.isUpper = false := by
  induction text generalizing last with
  | nil => cases hc
  | cons c' rest ih =>
      obtain ⟨hupper, -, hrest⟩ := h
      rcases List.mem_cons.1 hc with rfl | hc
      · exact hupper
      · exact ih hrest hc

/-! ## The ends of what is written -/

theorem head?_hyphenate (text : List Char) : (hyphenate none false text).head?
    = (text.dropWhile isSeparator).head?.map Char.toLower := by
  rw [hyphenate_dropWhile]
  have hhead := List.head?_dropWhile_not isSeparator text
  cases htext : text.dropWhile isSeparator with
  | nil => rfl
  | cons c rest =>
      rw [htext, List.head?_cons] at hhead
      by_cases hupper : c.isUpper = true
      · rw [hyphenate_of_isUpper hupper]
        rfl
      · have hother := toLower_eq_self hupper
        rw [Bool.not_eq_true] at hupper
        rw [hyphenate_of_other (by simpa using hhead) hupper, List.head?_cons, List.head?_cons,
          Option.map_some, hother]

/-- Behind a character that is no hyphen everything leaves something. -/
theorem hyphenate_eq_nil (h : ¬ AtStart last) (hnil : hyphenate last lower text = []) :
    text = [] := by
  cases text with
  | nil => rfl
  | cons c rest =>
      by_cases hseparator : isSeparator c = true
      · rw [hyphenate_of_separator_inside hseparator h] at hnil
        cases hnil
      · rw [hyphenate, if_neg hseparator] at hnil
        split_ifs at hnil

theorem getLast?_hyphenate (h : ∀ c ∈ text.getLast?, isBlank c = false) :
    ∀ c ∈ (hyphenate last lower text).getLast?, isBlank c = false := by
  -- A character in front of the rest is the last one just if nothing is written of the rest.
  have hcons : ∀ (c : Char) (out : List Char), (out = [] → isBlank c = false) →
      (∀ c' ∈ out.getLast?, isBlank c' = false) →
      ∀ c' ∈ (c :: out).getLast?, isBlank c' = false := by
    intro c out hc hout c' hc'
    cases out with
    | nil =>
        cases hc'
        exact hc rfl
    | cons d out =>
        rw [List.getLast?_cons_cons] at hc'
        exact hout c' hc'
  induction text generalizing last lower with
  | nil => exact nofun
  | cons c rest ih =>
      have hrest : ∀ c' ∈ rest.getLast?, isBlank c' = false := by
        intro c' hc'
        cases rest with
        | nil => cases hc'
        | cons d rest => exact h c' (by rwa [List.getLast?_cons_cons])
      by_cases hseparator : isSeparator c = true
      · by_cases hstart : AtStart last
        · rw [hyphenate_of_separator hseparator hstart]
          exact ih hrest
        · rw [hyphenate_of_separator_inside hseparator hstart]
          exact hcons '-' _ (fun _ => by decide) (ih hrest)
      rw [Bool.not_eq_true] at hseparator
      have hlast : rest = [] → isBlank c = false := by
        rintro rfl
        exact h c rfl
      by_cases hupper : c.isUpper = true
      · have hne := ne_hyphen_of_not_isSeparator (isSeparator_toLower hupper)
        have hsmall := hcons c.toLower (hyphenate (some c.toLower) false rest) (fun hnil => by
          rw [isBlank_toLower]
          exact hlast (hyphenate_eq_nil (not_atStart_of_ne hne) hnil)) (ih hrest)
        rw [hyphenate_of_isUpper hupper]
        split
        · exact hcons '-' _ (fun _ => by decide) hsmall
        · exact hsmall
      · rw [Bool.not_eq_true] at hupper
        have hne := ne_hyphen_of_not_isSeparator hseparator
        rw [hyphenate_of_other hseparator hupper]
        exact hcons c _ (fun hnil => hlast (hyphenate_eq_nil (not_atStart_of_ne hne) hnil))
          (ih hrest)

/-- Only a capital makes a text longer. -/
theorem length_hyphenate_le (h : ∀ c ∈ text, c.isUpper = false) :
    (hyphenate last lower text).length ≤ text.length := by
  induction text generalizing last lower with
  | nil => exact Nat.le_refl 0
  | cons c rest ih =>
      have hrest : ∀ c ∈ rest, c.isUpper = false := fun c' hc' => h c' (List.mem_cons_of_mem c hc')
      have hupper := h c (List.mem_cons_self ..)
      by_cases hseparator : isSeparator c = true
      · by_cases hstart : AtStart last
        · rw [hyphenate_of_separator hseparator hstart]
          exact Nat.le_succ_of_le (ih hrest)
        · rw [hyphenate_of_separator_inside hseparator hstart]
          exact Nat.succ_le_succ (ih hrest)
      · rw [Bool.not_eq_true] at hseparator
        rw [hyphenate_of_other hseparator hupper]
        exact Nat.succ_le_succ (ih hrest)

end Key

/-! ## Keys -/

open Key

theorem toList_normalizeKey (key : String) :
    (normalizeKey key).toList = hyphenate none false (trimmed key.toList) := by
  rw [normalizeKey, String.toList_ofList]

/-- The blanks around a key do not matter. -/
theorem normalizeKey_trimmed (key : String) :
    normalizeKey (.ofList (trimmed key.toList)) = normalizeKey key := by
  rw [normalizeKey, String.toList_ofList, (bare_trimmed key.toList).trimmed_eq, normalizeKey]

/-- A second pass changes nothing just if the first character of the key behind its separators is no
    blank. -/
theorem normalizeKey_normalizeKey_iff (key : String) :
    normalizeKey (normalizeKey key) = normalizeKey key ↔
      ∀ c ∈ ((trimmed key.toList).dropWhile isSeparator).head?, isBlank c = false := by
  have hsettled : Settled none (hyphenate none false (trimmed key.toList)) := by
    refine settled_hyphenate ?_ _
    nofun
  have hlast : ∀ c ∈ (hyphenate none false (trimmed key.toList)).getLast?, isBlank c = false :=
    getLast?_hyphenate (bare_trimmed key.toList).last
  have hhead := head?_hyphenate (trimmed key.toList)
  rw [← String.toList_inj, toList_normalizeKey (normalizeKey key), toList_normalizeKey key]
  generalize hyphenate none false (trimmed key.toList) = out at hsettled hlast hhead ⊢
  constructor
  · intro hsame c hc
    by_contra hblank
    rw [Bool.not_eq_false] at hblank
    rw [Option.mem_def.1 hc, Option.map_some] at hhead
    -- The blank in front goes, and no capital is left that would bring a hyphen.
    have hshort := length_trimmed_lt hhead (by rw [isBlank_toLower, hblank])
    have hle : (hyphenate none false (trimmed out)).length ≤ (trimmed out).length :=
      length_hyphenate_le fun c hc => hsettled.isUpper_eq_false (mem_of_mem_trimmed hc)
    rw [hsame] at hle
    omega
  · intro h
    have hbare : Bare out := by
      refine ⟨fun c hc => ?_, hlast⟩
      rw [hhead, Option.mem_def, Option.map_eq_some_iff] at hc
      obtain ⟨c', hc', rfl⟩ := hc
      rw [isBlank_toLower]
      exact h c' hc'
    rw [hbare.trimmed_eq, hsettled.hyphenate_eq]

/-- The tab behind the first separator is kept, and taken off in the second pass. -/
theorem not_forall_normalizeKey_normalizeKey :
    ¬ ∀ key, normalizeKey (normalizeKey key) = normalizeKey key := by
  intro h
  have hkey := h "_\tdescription"
  revert hkey
  decide +kernel

end Bacnet
