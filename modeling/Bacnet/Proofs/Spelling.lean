import Bacnet.Proofs.Key
import Bacnet.Proofs.Template

set_option autoImplicit false

/-! # The many spellings of a name

A name is a row of words. It may be spelled with runs of underscores, spaces and hyphens between the
words, each of them in small letters, with a capital in front or all in capitals, or with no more
between the words than that each begins with a capital. All of these are spellings of one key
(`normalizeKey_of_spells`): a hyphen is written where a word begins and nowhere else, because the
reading knows after each character whether a capital behind it begins a word. -/

namespace Bacnet

namespace Key

variable {last : Option Char} {lower : Bool} {c : Char} {cs text rest between : List Char}

/-! ## Words -/

/-- The characters of words as names have them. -/
def isSmall (c : Char) : Bool := c.isLower || c.isDigit

/-- A word of small letters and digits, with a letter in front and at least one character behind. -/
structure Word where
  first : Char
  tail : List Char
  isLower_first : first.isLower = true
  tail_ne_nil : tail ≠ []
  isSmall_tail : ∀ c ∈ tail, isSmall c = true

namespace Word

/-- A word in small letters. -/
def chars (w : Word) : List Char := w.first :: w.tail

/-- A word with a capital in front. -/
def capitalized (w : Word) : List Char := w.first.toUpper :: w.tail

/-- A word all in capitals. -/
def capitals (w : Word) : List Char := w.chars.map Char.toUpper

/-- How a word may be written between separators. A word with digits is not written in capitals. -/
inductive Written (w : Word) : List Char → Prop
  | small : w.Written w.chars
  | capitalized : w.Written w.capitalized
  | capitals (h : ∀ c ∈ w.tail, c.isLower = true) : w.Written w.capitals

end Word

/-- The name that is made of words: they stand with single hyphens between them. -/
def nameOf (words : List Word) : List Char := ['-'].intercalate (words.map Word.chars)

/-- Words with separators between them. -/
inductive Separated : List Word → List Char → Prop
  | last {w : Word} {text : List Char} (h : w.Written text) : Separated [w] text
  | cons {w : Word} {words : List Word} {text between rest : List Char} (h : w.Written text)
      (hne : between ≠ []) (hbetween : ∀ c ∈ between, isSeparator c = true)
      (hrest : Separated words rest) : Separated (w :: words) (text ++ between ++ rest)

/-- The spellings of a name. -/
inductive Spelled : List Word → List Char → Prop
  | separated {words : List Word} {text : List Char} (h : Separated words text) :
      Spelled words text
  | camelCase (w : Word) (words : List Word) :
      Spelled (w :: words) (w.chars ++ words.flatMap Word.capitalized)
  | pascalCase (w : Word) (words : List Word) :
      Spelled (w :: words) (w.capitalized ++ words.flatMap Word.capitalized)

/-- A key spells a name if separators may stand in front of it and spaces behind it. -/
def Spells (key : String) (words : List Word) : Prop :=
  ∃ front text behind, (∀ c ∈ front, isSeparator c = true) ∧ Spelled words text ∧
    (∀ c ∈ behind, c = ' ') ∧ key.toList = front ++ text ++ behind

/-! ## Characters of words -/

theorem isAlphanum_of_isSmall (h : isSmall c = true) : c.isAlphanum = true := by
  rw [isSmall, Bool.or_eq_true] at h
  exact h.elim isAlphanum_of_isLower isAlphanum_of_isDigit

theorem isSeparator_of_isSmall (h : isSmall c = true) : isSeparator c = false :=
  isSeparator_of_alphanum (isAlphanum_of_isSmall h)

theorem isUpper_of_isSmall (h : isSmall c = true) : c.isUpper = false := by
  rw [isSmall, Bool.or_eq_true] at h
  rw [← Bool.not_eq_true]
  rcases h with h | h
  · exact fun hupper => not_isUpper_of_isLower h hupper
  · exact not_isUpper_of_isDigit h

theorem Word.isSmall_of_mem {w : Word} (hc : c ∈ w.chars) : isSmall c = true := by
  rcases List.mem_cons.1 hc with rfl | hc
  · rw [isSmall, w.isLower_first, Bool.true_or]
  · exact w.isSmall_tail c hc

/-! ## One word after the other -/

/-- Inside of a name. Which character stands there does not matter. -/
theorem hyphenate_inside {c' : Char} (hc : isSmall c = true) (hc' : isSmall c' = true) :
    hyphenate (some c) lower text = hyphenate (some c') lower text := by
  have hinside : ∀ {c : Char}, isSmall c = true → ¬ AtStart (some c) := fun h =>
    not_atStart_of_ne (ne_hyphen_of_not_isSeparator (isSeparator_of_isSmall h))
  exact hyphenate_congr (iff_of_false (hinside hc) (hinside hc'))

theorem hyphenate_smalls (hne : cs ≠ []) (hcs : ∀ c ∈ cs, isSmall c = true)
    (hc : isSmall c = true) (text : List Char) :
    hyphenate last lower (cs ++ text) = cs ++ hyphenate (some c) true text := by
  induction cs generalizing last lower with
  | nil => exact absurd rfl hne
  | cons d cs ih =>
      have hd := hcs d (List.mem_cons_self ..)
      have hlower : (d.isLower || d.isDigit) = true := hd
      rw [List.cons_append, hyphenate_of_other (isSeparator_of_isSmall hd) (isUpper_of_isSmall hd),
        hlower, List.cons_append]
      by_cases hnil : cs = []
      · rw [hnil, List.nil_append, List.nil_append, hyphenate_inside hd hc]
      · rw [ih hnil fun c hc => hcs c (List.mem_cons_of_mem d hc)]

theorem hyphenate_capitals (hne : cs ≠ []) (hcs : ∀ c ∈ cs, c.isLower = true)
    (hc : isSmall c = true) (text : List Char) :
    hyphenate last false (cs.map Char.toUpper ++ text) = cs ++ hyphenate (some c) false text := by
  induction cs generalizing last with
  | nil => exact absurd rfl hne
  | cons d cs ih =>
      have hd := hcs d (List.mem_cons_self ..)
      have hsmall : isSmall d = true := by rw [isSmall, hd, Bool.true_or]
      rw [List.map_cons, List.cons_append, hyphenate_of_isUpper (isUpper_toUpper hd),
        if_neg (by decide), toLower_toUpper hd, List.cons_append]
      by_cases hnil : cs = []
      · rw [hnil, List.map_nil, List.nil_append, List.nil_append, hyphenate_inside hsmall hc]
      · rw [ih hnil fun c hc => hcs c (List.mem_cons_of_mem d hc)]

namespace Word

variable {w : Word} {words : List Word}

theorem isSmall_first (w : Word) : isSmall w.first = true :=
  w.isSmall_of_mem (List.mem_cons_self ..)

/-- Behind a small letter or a digit a capital begins a new word. -/
theorem hyphenate_capitalized (w : Word) (text : List Char) :
    hyphenate last lower (w.capitalized ++ text)
      = (if lower then ['-'] else []) ++ w.chars ++ hyphenate (some w.first) true text := by
  have htail : hyphenate (some w.first) false (w.tail ++ text)
      = w.tail ++ hyphenate (some w.first) true text :=
    hyphenate_smalls w.tail_ne_nil w.isSmall_tail w.isSmall_first text
  rw [capitalized, List.cons_append, hyphenate_of_isUpper (isUpper_toUpper w.isLower_first),
    toLower_toUpper w.isLower_first, htail]
  cases lower <;> rfl

/-- A word in front of which there is a separator, or nothing, is written in small letters. -/
theorem Written.exists_hyphenate (h : w.Written cs) : ∃ lower', ∀ last text,
    hyphenate last false (cs ++ text) = w.chars ++ hyphenate (some w.first) lower' text := by
  cases h with
  | small =>
      refine ⟨true, fun last text => ?_⟩
      exact hyphenate_smalls (List.cons_ne_nil _ _) (fun c hc => w.isSmall_of_mem hc)
        w.isSmall_first text
  | capitalized =>
      refine ⟨true, fun last text => ?_⟩
      rw [hyphenate_capitalized, if_neg (by decide), List.nil_append]
  | capitals h =>
      refine ⟨false, fun last text => ?_⟩
      refine hyphenate_capitals (List.cons_ne_nil _ _) (fun c hc => ?_) w.isSmall_first text
      rcases List.mem_cons.1 hc with rfl | hc
      · exact w.isLower_first
      · exact h c hc

/-- Words that each begin with a capital are all set apart behind a small letter. -/
theorem hyphenate_flatMap_capitalized (words : List Word) (hc : isSmall c = true) :
    hyphenate (some c) true (words.flatMap capitalized)
      = words.flatMap fun w => '-' :: w.chars := by
  induction words generalizing c with
  | nil => rfl
  | cons w words ih =>
      rw [List.flatMap_cons, hyphenate_capitalized, if_pos rfl, ih w.isSmall_first,
        List.flatMap_cons]
      rfl

end Word

theorem nameOf_cons (w : Word) (words : List Word) :
    nameOf (w :: words) = w.chars ++ words.flatMap fun w => '-' :: w.chars := by
  induction words generalizing w with
  | nil => simp [nameOf]
  | cons v words ih =>
      have hsplit : nameOf (w :: v :: words) = w.chars ++ ['-'] ++ nameOf (v :: words) :=
        List.intercalate_cons_cons
      rw [hsplit, ih v, List.flatMap_cons, List.append_assoc]
      rfl

/-! ## Names -/

/-- Separators inside of a name are one hyphen. -/
theorem hyphenate_between (hc : isSmall c = true) (hne : between ≠ [])
    (hbetween : ∀ c ∈ between, isSeparator c = true) (text : List Char) :
    hyphenate (some c) lower (between ++ text) = '-' :: hyphenate none false text := by
  cases between with
  | nil => exact absurd rfl hne
  | cons d between =>
      have hinside := not_atStart_of_ne (ne_hyphen_of_not_isSeparator (isSeparator_of_isSmall hc))
      have hstart : hyphenate (some '-') false (between ++ text)
          = hyphenate none false (between ++ text) :=
        hyphenate_congr (iff_of_true atStart_hyphen atStart_none)
      rw [List.cons_append,
        hyphenate_of_separator_inside (hbetween d (List.mem_cons_self ..)) hinside, hstart,
        hyphenate_dropWhile,
        List.dropWhile_append_of_pos fun c hc => hbetween c (List.mem_cons_of_mem d hc),
        ← hyphenate_dropWhile]

theorem Separated.hyphenate_eq {words : List Word} (h : Separated words text) :
    hyphenate none false text = nameOf words := by
  induction h with
  | @last w text h =>
      obtain ⟨lower', hword⟩ := h.exists_hyphenate
      have hall := hword none []
      rw [List.append_nil] at hall
      rw [hall, nameOf, List.map_singleton, List.intercalate_singleton]
      exact List.append_nil _
  | @cons w words text between rest h hne hbetween hrest ih =>
      obtain ⟨lower', hword⟩ := h.exists_hyphenate
      have hwords : words.map Word.chars ≠ [] := by
        cases hrest <;> exact List.cons_ne_nil _ _
      have hname : nameOf (w :: words) = w.chars ++ ['-'] ++ nameOf words :=
        List.intercalate_cons_of_ne_nil hwords
      rw [List.append_assoc, hword, hyphenate_between w.isSmall_first hne hbetween, ih, hname,
        List.append_assoc]
      rfl

theorem Spelled.hyphenate_eq {words : List Word} (h : Spelled words text) :
    hyphenate none false text = nameOf words := by
  cases h with
  | separated h => exact h.hyphenate_eq
  | camelCase w words =>
      have hne : w.chars ≠ [] := List.cons_ne_nil _ _
      rw [hyphenate_smalls hne (fun c hc => w.isSmall_of_mem hc) w.isSmall_first,
        Word.hyphenate_flatMap_capitalized words w.isSmall_first, nameOf_cons]
  | pascalCase w words =>
      rw [Word.hyphenate_capitalized, Word.hyphenate_flatMap_capitalized words w.isSmall_first,
        nameOf_cons]
      rfl

/-! ## The ends of a spelling -/

theorem Word.Written.exists_eq_cons {w : Word} (h : w.Written text) :
    ∃ c rest, text = c :: rest ∧ c.isAlpha = true := by
  have hfirst : w.first.isAlpha = true := isAlpha_iff.2 (.inr w.isLower_first)
  have hcapital : w.first.toUpper.isAlpha = true :=
    isAlpha_iff.2 (.inl (isUpper_toUpper w.isLower_first))
  cases h with
  | small => exact ⟨w.first, w.tail, rfl, hfirst⟩
  | capitalized => exact ⟨w.first.toUpper, w.tail, rfl, hcapital⟩
  | capitals _ => exact ⟨w.first.toUpper, w.tail.map Char.toUpper, rfl, hcapital⟩

theorem Word.Written.isAlphanum {w : Word} (h : w.Written text) (hc : c ∈ text) :
    c.isAlphanum = true := by
  have hupper : ∀ c : Char, c.isLower = true → c.toUpper.isAlphanum = true := fun _ hc =>
    isAlphanum_of_isUpper (isUpper_toUpper hc)
  cases h with
  | small => exact isAlphanum_of_isSmall (w.isSmall_of_mem hc)
  | capitalized =>
      rcases List.mem_cons.1 hc with rfl | hc
      · exact hupper w.first w.isLower_first
      · exact isAlphanum_of_isSmall (w.isSmall_tail c hc)
  | capitals h =>
      obtain ⟨d, hd, rfl⟩ := List.mem_map.1 hc
      rcases List.mem_cons.1 hd with rfl | hd
      · exact hupper w.first w.isLower_first
      · exact hupper d (h d hd)

/-- A spelling begins with a letter and ends in a letter or a digit. -/
structure Bounded (text : List Char) : Prop where
  first : ∃ c rest, text = c :: rest ∧ c.isAlpha = true
  last : ∀ c ∈ text.getLast?, c.isAlphanum = true

theorem Word.Written.bounded {w : Word} (h : w.Written text) : Bounded text :=
  ⟨h.exists_eq_cons, fun _ hc => h.isAlphanum (List.mem_of_mem_getLast? hc)⟩

/-- Texts that begin and end so can stand one behind the other. -/
theorem Bounded.append (h : Bounded text) (hrest : Bounded rest) (between : List Char) :
    Bounded (text ++ between ++ rest) := by
  obtain ⟨c, front, rfl, hc⟩ := h.first
  refine ⟨⟨c, front ++ between ++ rest, rfl, hc⟩, fun c' hc' => ?_⟩
  obtain ⟨d, back, hback, -⟩ := hrest.first
  rw [List.getLast?_append_of_ne_nil _ (by rw [hback]; exact List.cons_ne_nil d back)] at hc'
  exact hrest.last c' hc'

theorem Bounded.flatMap_capitalized (h : Bounded text) (words : List Word) :
    Bounded (text ++ words.flatMap Word.capitalized) := by
  induction words generalizing text with
  | nil => rwa [List.flatMap_nil, List.append_nil]
  | cons w words ih =>
      rw [List.flatMap_cons, ← List.append_assoc]
      have hword := h.append (Word.Written.capitalized (w := w)).bounded []
      rw [List.append_nil] at hword
      exact ih hword

theorem Separated.bounded {words : List Word} (h : Separated words text) : Bounded text := by
  induction h with
  | last h => exact h.bounded
  | cons h _ _ _ ih => exact h.bounded.append ih _

theorem Spelled.bounded {words : List Word} (h : Spelled words text) : Bounded text := by
  cases h with
  | separated h => exact h.bounded
  | camelCase w words => exact Word.Written.small.bounded.flatMap_capitalized words
  | pascalCase w words => exact Word.Written.capitalized.bounded.flatMap_capitalized words

theorem Bounded.bare (h : Bounded text) : Bare text where
  head := by
    obtain ⟨c, rest, rfl, hc⟩ := h.first
    intro c' hc'
    cases hc'
    exact isBlank_of_isAlphanum (isAlphanum_iff.2 (.inl hc))
  last c hc := isBlank_of_isAlphanum (h.last c hc)

/-! ## Keys -/

/-- The separators and spaces around a name come off, some as blanks and the others as
    separators. -/
theorem Spells.exists_trimmed_eq {key : String} {words : List Word} (h : Spells key words) :
    ∃ front text, (∀ c ∈ front, isSeparator c = true) ∧ Spelled words text ∧
      trimmed key.toList = front ++ text := by
  obtain ⟨front, text, behind, hfront, htext, hbehind, hkey⟩ := h
  refine ⟨front.dropWhile isBlank, text, fun c hc => ?_, htext, ?_⟩
  · exact hfront c (List.dropWhile_subset isBlank hc)
  · obtain ⟨c, rest, htext', -⟩ := htext.bounded.first
    rw [hkey]
    refine trimmed_append htext.bounded.bare ?_ front fun c hc => ?_
    · rw [htext']
      exact List.cons_ne_nil c rest
    · rw [hbehind c hc]
      decide

theorem Spells.normalizeKey_eq {key : String} {words : List Word} (h : Spells key words) :
    normalizeKey key = .ofList (nameOf words) := by
  obtain ⟨front, text, hfront, htext, htrimmed⟩ := h.exists_trimmed_eq
  rw [normalizeKey, htrimmed, hyphenate_dropWhile, List.dropWhile_append_of_pos hfront,
    ← hyphenate_dropWhile, htext.hyphenate_eq]

/-- A spelling of a name is no number. -/
theorem Spells.toCode?_eq {key : String} {words : List Word} (h : Spells key words)
    (p : PropertyId) :
    (Setting.text key).toCode? p = Enumeration.code? p (.ofList (nameOf words)) := by
  obtain ⟨front, text, -, htext, htrimmed⟩ := h.exists_trimmed_eq
  obtain ⟨c, rest, htext', hc⟩ := htext.bounded.first
  have hmem : c ∈ trimmed key.toList := by
    rw [htrimmed, htext']
    exact List.mem_append_right front (List.mem_cons_self ..)
  have hletter : c.isDigit = false ∧ c ≠ '-' ∧ c ≠ '+' := by
    refine ⟨Bool.eq_false_iff.2 (not_isDigit_of_isAlpha hc), ?_, ?_⟩
    all_goals
      rintro rfl
      exact absurd hc (by decide)
  show (Enumeration.code? p (normalizeKey (.ofList (trimmed key.toList)))).or
    (uint32OfText? (trimmed key.toList)) = _
  rw [normalizeKey_trimmed, h.normalizeKey_eq, uint32OfText?_eq_none hmem hletter, Option.or_none]

/-- As a value of an enumerated property a spelling stands for the code of the name. -/
theorem Spells.toValue_eq {key : String} {words : List Word} (h : Spells key words)
    (p : PropertyId) : (Setting.text key).toValue p .enumerated =
      (Enumeration.code? p (.ofList (nameOf words))).elim
        (.error (.notOfDatatype (.text key) .enumerated)) fun code => .ok (.enumerated code) := by
  have hsimple : (Setting.text key).toSimple? p .enumerated
      = (Enumeration.code? p (.ofList (nameOf words))).map .enumerated :=
    congrArg (Option.map Value.enumerated) (h.toCode?_eq p)
  rw [Setting.toValue_simple rfl, hsimple]
  cases Enumeration.code? p (.ofList (nameOf words)) <;> rfl

/-- Every spelling of a name is normalized to the name itself, and so all of them stand for the same
    thing: as a key for the same property, and as a value for the same code. -/
theorem normalizeKey_of_spells {key : String} {words : List Word} (h : Spells key words) :
    normalizeKey key = .ofList (nameOf words) ∧
    (∀ p, (Setting.text key).toValue p .enumerated =
      (Enumeration.code? p (.ofList (nameOf words))).elim
        (.error (.notOfDatatype (.text key) .enumerated)) fun code => .ok (.enumerated code)) ∧
    ∀ key', Spells key' words → Key.ofText? key' = Key.ofText? key ∧
      ∀ p v, (Setting.text key').toValue p .enumerated = .ok v ↔
        (Setting.text key).toValue p .enumerated = .ok v := by
  refine ⟨h.normalizeKey_eq, h.toValue_eq, fun key' h' => ⟨?_, fun p v => ?_⟩⟩
  · rw [Key.ofText?, Key.ofText?, h.normalizeKey_eq, h'.normalizeKey_eq]
  · rw [h.toValue_eq, h'.toValue_eq]
    cases Enumeration.code? p (.ofList (nameOf words)) with
    | none => simp
    | some code => simp

/-- A unit of measurement in two spellings. -/
theorem normalizeKey_of_spells_units :
    let degrees : Word :=
      ⟨'d', ['e', 'g', 'r', 'e', 'e', 's'], by decide, by decide, List.all_eq_true.1 (by decide)⟩
    let kelvin : Word :=
      ⟨'k', ['e', 'l', 'v', 'i', 'n'], by decide, by decide, List.all_eq_true.1 (by decide)⟩
    (Spells "- Degrees __KELVIN  " [degrees, kelvin] ∧ Spells "degreesKelvin" [degrees, kelvin]) ∧
      normalizeKey "- Degrees __KELVIN  " = "degrees-kelvin" ∧
      (Setting.text "- Degrees __KELVIN  ").toValue .units .enumerated = .ok (.enumerated 63) ∧
      (Setting.text "degreesKelvin").toValue .units .enumerated = .ok (.enumerated 63) := by
  intro degrees kelvin
  have hkelvin : Separated [kelvin] kelvin.capitals :=
    .last (.capitals (List.all_eq_true.1 (by decide)))
  have hwords : Separated [degrees, kelvin]
      (degrees.capitalized ++ [' ', '_', '_'] ++ kelvin.capitals) :=
    .cons .capitalized (by decide) (List.all_eq_true.1 (by decide)) hkelvin
  have hspells : Spells "- Degrees __KELVIN  " [degrees, kelvin] :=
    ⟨['-', ' '], _, [' ', ' '], List.all_eq_true.1 (by decide), .separated hwords, by simp,
      by decide +kernel⟩
  have hcamel : Spells "degreesKelvin" [degrees, kelvin] :=
    ⟨[], _, [], by simp, .camelCase degrees [kelvin], by simp, by decide +kernel⟩
  obtain ⟨hname, hread, hsame⟩ := normalizeKey_of_spells hspells
  have hcode : Enumeration.code? .units (.ofList (nameOf [degrees, kelvin])) = some 63 := by
    decide +kernel
  have hvalue : (Setting.text "- Degrees __KELVIN  ").toValue .units .enumerated
      = .ok (.enumerated 63) := by
    rw [hread, hcode, Option.elim_some]
  exact ⟨⟨hspells, hcamel⟩, hname, hvalue, ((hsame _ hcamel).2 _ _).2 hvalue⟩

end Key

end Bacnet
