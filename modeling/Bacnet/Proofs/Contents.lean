import Bacnet.Contents
import Bacnet.Proofs.Tag

set_option autoImplicit false

/-! # Contents read back

Integers in as few octets as hold them, words and texts are read back from their contents, for the
length that their tag declares. `reads_application` and `reads_context` put the tag in front once
and for all. -/

namespace Bacnet.Contents

/-! ## Unsigned integers -/

theorem unsignedWidth_bounds (n : UInt32) :
    1 ≤ unsignedWidth n ∧ unsignedWidth n ≤ 4 ∧ n.toNat < 256 ^ unsignedWidth n := by
  have hlt := n.toNat_lt
  unfold unsignedWidth
  simp only [UInt32.lt_iff_toNat_lt, UInt32.reduceToNat]
  split
  · omega
  · split
    · omega
    · split <;> omega

@[simp] theorem length_ofUnsigned (n : UInt32) : (ofUnsigned n).length = unsignedWidth n :=
  Octets.length_ofNat ..

theorem reads_unsigned (n : UInt32) (rest : Octets) :
    (decodeUnsigned (unsignedWidth n)).Reads (ofUnsigned n) n rest := by
  obtain ⟨hpos, hle, hlt⟩ := unsignedWidth_bounds n
  unfold decodeUnsigned
  rw [if_neg (by omega)]
  have h := (Decode.reads_octets (length_ofUnsigned n) rest).bind_pure
    fun octets => UInt32.ofNat (Octets.toNat octets)
  rwa [ofUnsigned, Octets.toNat_ofNat_of_lt hlt, UInt32.ofNat_toNat] at h

/-! ## Signed integers -/

/-- The unsigned reading of the two's complement. -/
theorem toInt_eq_toNat_toUInt32 (n : Int32) :
    n.toInt = if n.toUInt32.toNat < 0x80000000 then (n.toUInt32.toNat : Int)
      else n.toUInt32.toNat - 0x100000000 := by
  rw [← Int32.toInt_toBitVec, BitVec.toInt_eq_toNat_cond, Int32.toNat_toBitVec]
  split <;> split <;> omega

theorem signedWidth_bounds (n : Int32) :
    ∃ k ≤ 3, signedWidth n = k + 1 ∧ -(128 * 256 ^ k : Int) ≤ n.toInt ∧
      n.toInt < (128 * 256 ^ k : Int) := by
  have hle := n.le_toInt
  have hlt := n.toInt_lt
  unfold signedWidth
  simp only [Int32.lt_iff_toInt_lt, Int32.le_iff_toInt_le]
  split
  · next h => exact ⟨0, by omega, rfl, h.1, h.2⟩
  · split
    · next h => exact ⟨1, by omega, rfl, h.1, h.2⟩
    · split
      · next h => exact ⟨2, by omega, rfl, h.1, h.2⟩
      · exact ⟨3, by omega, rfl, by omega, by omega⟩

@[simp] theorem length_ofSigned (n : Int32) : (ofSigned n).length = signedWidth n :=
  Octets.length_ofNat ..

theorem signedOfOctets_ofSigned (n : Int32) : signedOfOctets (ofSigned n) = n := by
  obtain ⟨k, hk, hwidth, hle, hlt⟩ := signedWidth_bounds n
  have hn := toInt_eq_toNat_toUInt32 n
  have hsize := n.toUInt32.toNat_lt
  have hhead : ((ofSigned n).headD 0).toNat = n.toUInt32.toNat / 256 ^ k % 256 := by
    rw [ofSigned, hwidth, Octets.ofNat, List.headD_cons, UInt8.toNat_ofNat']
  have hall : Octets.toNat (ofSigned n) = n.toUInt32.toNat % 256 ^ (k + 1) := by
    rw [ofSigned, hwidth, Octets.toNat_ofNat]
  have hk' : k = 0 ∨ k = 1 ∨ k = 2 ∨ k = 3 := by omega
  -- The first bit of the octets is the sign, because the width leaves it room.
  have hsign : (ofSigned n).headD 0 < 0x80 ↔ 0 ≤ n.toInt := by
    rw [UInt8.lt_iff_toNat_lt, hhead]
    rcases hk' with rfl | rfl | rfl | rfl <;> simp only [UInt8.reduceToNat] <;> omega
  have hvalue : (Octets.toNat (ofSigned n) : Int)
      = if 0 ≤ n.toInt then n.toInt else n.toInt + 256 ^ (k + 1) := by
    rw [hall]
    rcases hk' with rfl | rfl | rfl | rfl <;> split <;> omega
  unfold signedOfOctets
  simp only [length_ofSigned, hwidth, hsign, hvalue]
  split <;> simp

theorem reads_signed (n : Int32) (rest : Octets) :
    (decodeSigned (signedWidth n)).Reads (ofSigned n) n rest := by
  obtain ⟨k, hk, hwidth, -, -⟩ := signedWidth_bounds n
  unfold decodeSigned
  rw [if_neg (by omega)]
  have h := (Decode.reads_octets (length_ofSigned n) rest).bind_pure signedOfOctets
  rwa [signedOfOctets_ofSigned] at h

/-! ## Words and texts -/

theorem reads_word32 (word : UInt32) (rest : Octets) :
    (decodeWord32 4).Reads (Octets.ofUInt32 word) word rest := by
  unfold decodeWord32
  rw [if_neg (by simp)]
  exact Decode.reads_word32 word rest

theorem reads_word64 (word : UInt64) (rest : Octets) :
    (decodeWord64 8).Reads (Octets.ofUInt64 word) word rest := by
  unfold decodeWord64
  rw [if_neg (by simp)]
  exact Decode.reads_word64 word rest

theorem reads_text (text : String) (rest : Octets) :
    (decodeText ((Octets.ofString text).length + 1)).Reads
      (utf8Charset :: Octets.ofString text) text rest := by
  unfold decodeText
  refine (Decode.reads_octets (List.length_cons ..) rest).bind_last ?_
  simp only [ne_eq, not_true_eq_false, ↓reduceIte, Octets.toString?_ofString]
  exact .pure text rest

/-! ## Behind a tag -/

@[simp] theorem fault_tagged (tag : UInt32 → Tag) (contents : Octets) :
    (tagged tag contents).fault = none := by
  simp [tagged]

@[simp] theorem octets_tagged (tag : UInt32 → Tag) (contents : Octets) :
    (tagged tag contents).octets = (tag (.ofNat contents.length)).encode.octets ++ contents := by
  simp [tagged]

@[simp] theorem fault_encodeUnsigned (tag : UInt32 → Tag) (n : UInt32) :
    (encodeUnsigned tag n).fault = none := fault_tagged ..

@[simp] theorem fault_encodeSigned (tag : UInt32 → Tag) (n : Int32) :
    (encodeSigned tag n).fault = none := fault_tagged ..

@[simp] theorem fault_encodeWord32 (tag : UInt32 → Tag) (word : UInt32) :
    (encodeWord32 tag word).fault = none := fault_tagged ..

@[simp] theorem fault_encodeWord64 (tag : UInt32 → Tag) (word : UInt64) :
    (encodeWord64 tag word).fault = none := fault_tagged ..

theorem fault_encodeHeaded {octets : Octets} (h : octets.length + 1 < 0x100000000)
    (tag : UInt32 → Tag) (head : UInt8) : (encodeHeaded tag head octets).fault = none := by
  unfold encodeHeaded
  simp only [if_pos h]
  simp

/-- An octet and further octets have a written form only if a tag can count them. -/
theorem length_lt_of_fault_encodeHeaded {tag : UInt32 → Tag} {head : UInt8} {octets : Octets}
    (h : (encodeHeaded tag head octets).fault = none) : octets.length + 1 < 0x100000000 := by
  unfold encodeHeaded at h
  by_contra hlength
  simp only [if_neg hlength] at h
  cases h

/-- An octet and further octets are written as one row of contents. -/
theorem octets_encodeHeaded {octets : Octets} (h : octets.length + 1 < 0x100000000)
    (tag : UInt32 → Tag) (head : UInt8) :
    (encodeHeaded tag head octets).octets = (tagged tag (head :: octets)).octets := by
  unfold encodeHeaded
  simp only [if_pos h]
  simp

section Tagged

variable {α : Type} {reading : Nat → Decode α} {contents rest : Octets} {a : α}

theorem reads_application (tag : AppTag) (hlength : contents.length < 0x100000000)
    (h : (reading contents.length).Reads contents a rest) :
    (do reading (← Tag.expectApplication tag)).Reads
      (tagged (.application tag) contents).octets a rest := by
  rw [octets_tagged]
  refine (Tag.reads_expectApplication tag _ _).bind ?_
  rwa [UInt32.toNat_ofNat_of_lt' hlength]

theorem reads_context (number : UInt8) (hlength : contents.length < 0x100000000)
    (h : (reading contents.length).Reads contents a rest) :
    (do reading (← Tag.expectContext number)).Reads
      (tagged (.context number) contents).octets a rest := by
  rw [octets_tagged]
  refine (Tag.reads_expectContext number _ _).bind ?_
  rwa [UInt32.toNat_ofNat_of_lt' hlength]

end Tagged

theorem length_ofUnsigned_lt (n : UInt32) : (ofUnsigned n).length < 0x100000000 := by
  have h := unsignedWidth_bounds n
  rw [length_ofUnsigned]
  omega

theorem length_ofSigned_lt (n : Int32) : (ofSigned n).length < 0x100000000 := by
  obtain ⟨k, hk, hwidth, -, -⟩ := signedWidth_bounds n
  rw [length_ofSigned]
  omega

theorem reads_appUnsigned (n : UInt32) (rest : Octets) :
    decodeAppUnsigned.Reads (encodeUnsigned (.application .unsignedInt) n).octets n rest :=
  reads_application _ (length_ofUnsigned_lt n) (by simpa using reads_unsigned n rest)

theorem reads_appEnumerated (n : UInt32) (rest : Octets) :
    decodeAppEnumerated.Reads (encodeUnsigned (.application .enumerated) n).octets n rest :=
  reads_application _ (length_ofUnsigned_lt n) (by simpa using reads_unsigned n rest)

theorem reads_appObjectId (word : UInt32) (rest : Octets) :
    decodeAppObjectId.Reads (encodeWord32 (.application .objectId) word).octets word rest :=
  reads_application _ (by simp) (by simpa using reads_word32 word rest)

theorem reads_appText {text : String} (h : (Octets.ofString text).length + 1 < 0x100000000)
    (rest : Octets) :
    decodeAppText.Reads (encodeText (.application .characterString) text).octets text rest := by
  rw [encodeText, octets_encodeHeaded h]
  exact reads_application _ h (reads_text text rest)

theorem reads_contextUnsigned (number : UInt8) (n : UInt32) (rest : Octets) :
    (do decodeUnsigned (← Tag.expectContext number)).Reads
      (encodeUnsigned (.context number) n).octets n rest :=
  reads_context _ (length_ofUnsigned_lt n) (by simpa using reads_unsigned n rest)

theorem reads_contextWord32 (number : UInt8) (word : UInt32) (rest : Octets) :
    (do decodeWord32 (← Tag.expectContext number)).Reads
      (encodeWord32 (.context number) word).octets word rest :=
  reads_context _ (by simp) (by simpa using reads_word32 word rest)

/-- A tag with the length of few octets takes two octets at most. -/
theorem length_tagged_le (tag : AppTag) {contents : Octets} (h : contents.length < 5) :
    (tagged (.application tag) contents).octets.length ≤ contents.length + 2 := by
  have hshort : UInt32.ofNat contents.length < 5 := by
    rw [UInt32.lt_iff_toNat_lt, UInt32.toNat_ofNat_of_lt' (Nat.lt_trans h (by decide))]
    exact h
  have htag := Tag.length_encodeWithLength_of_lt tag.number 0 hshort
  rw [octets_tagged, List.length_append]
  show (Tag.encodeWithLength tag.number 0 _).octets.length + _ ≤ _
  omega

/-- A tagged enumerated value takes six octets at most. -/
theorem length_encodeUnsigned_le (tag : AppTag) (n : UInt32) :
    (encodeUnsigned (.application tag) n).octets.length ≤ 6 := by
  obtain ⟨-, hle, -⟩ := unsignedWidth_bounds n
  rw [← length_ofUnsigned] at hle
  have h := length_tagged_le tag (Nat.lt_succ_of_le hle)
  exact Nat.le_trans h (Nat.add_le_add_right hle 2)

theorem length_encodeWord32_le (tag : AppTag) (word : UInt32) :
    (encodeWord32 (.application tag) word).octets.length ≤ 6 := by
  have hlength : (Octets.ofUInt32 word).length = 4 := Octets.length_ofUInt32 word
  have h := length_tagged_le tag (Nat.lt_of_le_of_lt (Nat.le_of_eq hlength) (by decide))
  rwa [hlength] at h

end Bacnet.Contents
