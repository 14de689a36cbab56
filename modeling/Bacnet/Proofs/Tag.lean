import Bacnet.Proofs.Reader
import Bacnet.Proofs.Writer
import Bacnet.Tag

set_option autoImplicit false

/-! # Tags read back

Every tag is read back from its octets, whatever stands behind them (`reads_decode`). The initial
octet comes first: it holds the number in its high half or says that an octet with it follows, and
its low half is what the class and the length put there. -/

namespace Bacnet

namespace Tag

/-! ## Faults -/

@[simp] theorem fault_encodeInitial (number low : UInt8) :
    (encodeInitial number low).fault = none := by
  unfold encodeInitial
  split <;> rfl

@[simp] theorem fault_encodeLength (length : UInt32) : (encodeLength length).fault = none := by
  unfold encodeLength
  split
  · rfl
  · split <;> simp

@[simp] theorem fault_encodeWithLength (number classBit : UInt8) (length : UInt32) :
    (encodeWithLength number classBit length).fault = none := by
  unfold encodeWithLength
  split <;> simp

@[simp] theorem fault_encode (t : Tag) : t.encode.fault = none := by
  cases t <;> simp [encode]

/-! ## The initial octet -/

/-- Reads an initial octet and the number it announces, and goes on with both. -/
def withInitial {β : Type} (next : UInt8 → UInt8 → Decode β) : Decode β := do
  let initial ← Decode.octet
  let number ← if initial >>> 4 = extendedNumber then Decode.octet else pure (initial >>> 4)
  next initial number

/-- The initial octet and the number it announces. What follows may look at the low half only. -/
theorem reads_initial {β : Type} {number low : UInt8} (hlow : low < 16)
    {next : UInt8 → UInt8 → Decode β} {back rest : Octets} {b : β}
    (h : ∀ initial, initial &&& 15 = low → (next initial number).Reads back b rest) :
    (withInitial next).Reads ((encodeInitial number low).octets ++ back) b rest := by
  unfold encodeInitial withInitial
  by_cases hn : number < extendedNumber
  · have hn' : number < 16 := UInt8.lt_trans hn (by decide)
    rw [if_pos hn, Encoding.octets_octet]
    refine (Decode.reads_octet _ _).bind ?_
    rw [Octets.halves_shiftRight hn' hlow, if_neg (UInt8.ne_of_lt hn)]
    exact Decode.Reads.bind_nil (.pure _ _) (h _ (Octets.halves_and hn' hlow))
  -- A number that does not fit the high half stands in an octet of its own.
  · rw [if_neg hn, Encoding.octets_append rfl, Encoding.octets_octet, Encoding.octets_octet,
      List.append_assoc]
    refine (Decode.reads_octet _ _).bind ?_
    rw [Octets.halves_shiftRight (by decide) hlow, if_pos rfl]
    exact (Decode.reads_octet _ _).bind (h _ (Octets.halves_and (by decide) hlow))

/-! ## Lengths -/

theorem reads_decodeLength_of_lt {length : UInt32} (h : length < 5) (rest : Octets) :
    (decodeLength length.toUInt8).Reads [] length rest := by
  have hn : length.toNat < 5 := UInt32.lt_iff_toNat_lt.1 h
  have hlow : length.toUInt8 < extendedLength := by
    rw [UInt8.lt_iff_toNat_lt, UInt32.toNat_toUInt8]
    show length.toNat % 256 < 5
    omega
  have hback : length.toUInt8.toUInt32 = length := by
    apply UInt32.toNat_inj.1
    rw [UInt8.toNat_toUInt32, UInt32.toNat_toUInt8]
    omega
  rw [decodeLength, if_pos hlow, hback]
  exact .pure _ _

theorem reads_decodeLength (length : UInt32) (rest : Octets) :
    (decodeLength extendedLength).Reads (encodeLength length).octets length rest := by
  unfold decodeLength encodeLength
  rw [if_neg (by decide), if_neg (by decide)]
  by_cases h₁ : length ≤ 253
  · have hn : length.toNat ≤ 253 := UInt32.le_iff_toNat_le.1 h₁
    have hoctet : length.toUInt8.toNat = length.toNat := by
      rw [UInt32.toNat_toUInt8]
      omega
    have hback : length.toUInt8.toUInt32 = length := by
      apply UInt32.toNat_inj.1
      rw [UInt8.toNat_toUInt32, hoctet]
    rw [if_pos h₁, Encoding.octets_octet]
    refine (Decode.reads_octet _ _).bind ?_
    -- A short length is below the two octets that announce a longer one.
    split
    · next h => rw [h] at hoctet; simp at hoctet; omega
    · next h => rw [h] at hoctet; simp at hoctet; omega
    · rw [hback]
      exact .pure _ _
  · rw [if_neg h₁]
    by_cases h₂ : length ≤ 0xFFFF
    · have hn : length.toNat ≤ 0xFFFF := UInt32.le_iff_toNat_le.1 h₂
      have hback : length.toUInt16.toUInt32 = length := by
        apply UInt32.toNat_inj.1
        rw [UInt16.toNat_toUInt32, UInt32.toNat_toUInt16]
        omega
      rw [if_pos h₂, Encoding.octets_append rfl, Encoding.octets_octet, Encoding.octets_piece]
      refine (Decode.reads_octet _ _).bind ?_
      have h := (Decode.reads_word16 length.toUInt16 rest).map UInt16.toUInt32
      rwa [hback] at h
    · rw [if_neg h₂, Encoding.octets_append rfl, Encoding.octets_octet, Encoding.octets_piece]
      exact (Decode.reads_octet _ _).bind (Decode.reads_word32 length rest)

/-! ## Tags -/

/-- What the low half of an initial octet keeps apart: the class, and five or less for a length. -/
theorem low_bits {classBit low : UInt8} (hclass : classBit = 0 ∨ classBit = contextClass)
    (hlow : low < 6) : (classBit ||| low) &&& contextClass = classBit ∧
      (classBit ||| low) &&& 7 = low ∧ (classBit ||| low) < 16 ∧
      low ≠ openingBits ∧ low ≠ closingBits := by
  have hn : low.toNat < 6 := UInt8.lt_iff_toNat_lt.1 hlow
  rw [← UInt8.ofNat_toNat (x := low)]
  generalize low.toNat = n at hn
  rcases hclass with rfl | rfl <;> revert n <;> decide

/-- A mask within the low half sees nothing of the high half. -/
theorem and_of_and_fifteen {initial low : UInt8} (h : initial &&& 15 = low) {mask : UInt8}
    (hmask : 15 &&& mask = mask) : initial &&& mask = low &&& mask := by
  rw [← h, UInt8.and_assoc, hmask]

/-- The initial octet and the length of a tag that has one. -/
theorem reads_withLength {number classBit : UInt8} (hclass : classBit = 0 ∨ classBit = contextClass)
    {length : UInt32} {next : UInt8 → UInt8 → Decode Tag} {t : Tag} {rest : Octets}
    (h : ∀ initial input, initial &&& contextClass = classBit → initial &&& 7 ≠ openingBits →
      initial &&& 7 ≠ closingBits → (decodeLength (initial &&& 7)).Reads input length rest →
      (next initial number).Reads input t rest) :
    (withInitial next).Reads (encodeWithLength number classBit length).octets t rest := by
  have key : ∀ (low : UInt8) (input : Octets), low < 6 →
      (decodeLength low).Reads input length rest →
      (withInitial next).Reads
        ((encodeInitial number (classBit ||| low)).octets ++ input) t rest := by
    intro low input hlow hlength
    obtain ⟨hbit, hseven, hsmall, hopening, hclosing⟩ := low_bits hclass hlow
    refine reads_initial hsmall fun initial hinitial => ?_
    have h₇ : initial &&& 7 = low := by
      rw [and_of_and_fifteen hinitial (by decide), hseven]
    have h₈ : initial &&& contextClass = classBit := by
      rw [and_of_and_fifteen hinitial (by decide), hbit]
    exact h initial input h₈ (h₇ ▸ hopening) (h₇ ▸ hclosing) (h₇ ▸ hlength)
  unfold encodeWithLength
  by_cases hshort : length < 5
  · have hlow : length.toUInt8 < 6 := by
      have hn : length.toNat < 5 := UInt32.lt_iff_toNat_lt.1 hshort
      rw [UInt8.lt_iff_toNat_lt, UInt32.toNat_toUInt8]
      show length.toNat % 256 < 6
      omega
    rw [if_pos hshort, ← List.append_nil (encodeInitial ..).octets]
    exact key _ _ hlow (reads_decodeLength_of_lt hshort rest)
  · rw [if_neg hshort, Encoding.octets_append (fault_encodeInitial ..)]
    exact key _ _ (by decide) (reads_decodeLength length rest)

/-- The initial octet of an opening or a closing tag, which is all of it. -/
theorem reads_bracket {number bits : UInt8} (hbits : bits = openingBits ∨ bits = closingBits)
    {next : UInt8 → UInt8 → Decode Tag} {t : Tag} {rest : Octets}
    (h : ∀ initial, initial &&& contextClass ≠ 0 → initial &&& 7 = bits →
      next initial number = pure t) :
    (withInitial next).Reads (encodeInitial number (contextClass ||| bits)).octets t rest := by
  rw [← List.append_nil (encodeInitial ..).octets]
  refine reads_initial (by rcases hbits with rfl | rfl <;> decide) fun initial hinitial => ?_
  have h₇ : initial &&& 7 = bits := by
    rw [and_of_and_fifteen hinitial (by decide)]
    rcases hbits with rfl | rfl <;> decide
  have h₈ : initial &&& contextClass ≠ 0 := by
    rw [and_of_and_fifteen hinitial (by decide)]
    rcases hbits with rfl | rfl <;> decide
  rw [h initial h₈ h₇]
  exact .pure t rest

/-- Every tag is read back from its octets. -/
theorem reads_decode (t : Tag) (rest : Octets) : decode.Reads t.encode.octets t rest := by
  unfold decode encode
  cases t with
  | application tag length =>
      refine reads_withLength (.inl rfl) fun initial input hclass _ _ hlength => ?_
      simp only [if_pos hclass, AppTag.ofNumber?_number]
      exact hlength.bind_pure _
  | context number length =>
      refine reads_withLength (.inr rfl) fun initial input hclass hopening hclosing hlength => ?_
      have hne : ¬ initial &&& contextClass = 0 := by rw [hclass]; decide
      simp only [if_neg hne, if_neg hopening, if_neg hclosing]
      exact hlength.bind_pure _
  | opening number =>
      refine reads_bracket (.inl rfl) fun initial hclass hbits => ?_
      simp only [if_neg hclass, if_pos hbits]
  | closing number =>
      refine reads_bracket (.inr rfl) fun initial hclass hbits => ?_
      have hne : ¬ initial &&& 7 = openingBits := by rw [hbits]; decide
      simp only [if_neg hclass, if_neg hne, if_pos hbits]

/-! ## Tags that have to be there -/

theorem reads_expect (t : Tag) (rest : Octets) : (expect t).Reads t.encode.octets () rest := by
  unfold expect
  refine (reads_decode t rest).bind_last ?_
  rw [if_neg (by simp)]
  exact .pure () rest

theorem reads_expectApplication (tag : AppTag) (length : UInt32) (rest : Octets) :
    (expectApplication tag).Reads (application tag length).encode.octets length.toNat rest := by
  unfold expectApplication
  refine (reads_decode _ rest).bind_last ?_
  simp only [↓reduceIte]
  exact .pure _ rest

theorem reads_expectContext (number : UInt8) (length : UInt32) (rest : Octets) :
    (expectContext number).Reads (context number length).encode.octets length.toNat rest := by
  unfold expectContext
  refine (reads_decode _ rest).bind_last ?_
  simp only [↓reduceIte]
  exact .pure _ rest

/-! ## Sizes -/

theorem length_encodeInitial (number low : UInt8) :
    1 ≤ (encodeInitial number low).octets.length ∧
      (encodeInitial number low).octets.length ≤ 2 := by
  unfold encodeInitial
  split <;> simp

theorem length_encodeWithLength_of_lt (number classBit : UInt8) {length : UInt32}
    (h : length < 5) : (encodeWithLength number classBit length).octets.length ≤ 2 := by
  unfold encodeWithLength
  rw [if_pos h]
  exact (length_encodeInitial ..).2

/-- A tag is at least an octet long. -/
theorem one_le_length_encode (t : Tag) : 1 ≤ t.encode.octets.length := by
  have hlength : ∀ number classBit length,
      1 ≤ (encodeWithLength number classBit length).octets.length := by
    intro number classBit length
    unfold encodeWithLength
    split
    · exact (length_encodeInitial ..).1
    · have h := (length_encodeInitial number (classBit ||| extendedLength)).1
      rw [Encoding.octets_append (fault_encodeInitial ..), List.length_append]
      omega
  cases t with
  | application tag length => exact hlength ..
  | context number length => exact hlength ..
  | opening number => exact (length_encodeInitial ..).1
  | closing number => exact (length_encodeInitial ..).1

/-! ## Tags that come next -/

/-- The octets begin with a tag. -/
def Begins (t : Tag) (octets : Octets) : Prop := ∃ input, octets = t.encode.octets ++ input

theorem begins_append (t : Tag) (input : Octets) : t.Begins (t.encode.octets ++ input) :=
  ⟨input, rfl⟩

namespace Begins

variable {t : Tag} {octets : Octets} (h : t.Begins octets)

include h

theorem append (back : Octets) : t.Begins (octets ++ back) := by
  obtain ⟨input, rfl⟩ := h
  exact ⟨input ++ back, List.append_assoc ..⟩

theorem one_le_length : 1 ≤ octets.length := by
  obtain ⟨input, rfl⟩ := h
  have hpos := one_le_length_encode t
  rw [List.length_append]
  omega

theorem isEmpty_eq_false : octets.isEmpty = false := by
  have hpos := h.one_le_length
  cases octets with
  | nil => simp at hpos
  | cons o octets => rfl

theorem reads_peek : peek.Reads [] t octets := by
  obtain ⟨input, rfl⟩ := h
  exact (reads_decode t input).peek

end Begins

end Tag

/-! ## Brackets -/

@[simp] theorem Encoding.fault_bracketed (number : UInt8) (body : Encoding) :
    (bracketed number body).fault = body.fault := by
  simp [bracketed]

theorem Encoding.octets_bracketed {body : Encoding} (h : body.fault = none) (number : UInt8) :
    (bracketed number body).octets = (Tag.opening number).encode.octets ++
      (body.octets ++ (Tag.closing number).encode.octets) := by
  simp [bracketed, h]

end Bacnet
