import Bacnet.Proofs.Bounds.Replying
import Bacnet.Proofs.Template
import Mathlib.Data.List.Induction
import Mathlib.Tactic.IntervalCases

set_option autoImplicit false

/-! # Bits in octets

A bit string holds the bits of a list eight to an octet, the first of them highest, and zeros behind
the last one (`Packs`). Which octet and which place in it a bit has, how many places stay unused and
up to where a bit can be asked for are worked out apart from each other; they agree for every list,
so no bit is lost on the way to a device and back (`ofBits_keeps`). Bits that are set one after the
other in octets of zeros end up in the same places (`ofBitsChecked_eq`). -/

namespace Bacnet

namespace BitString

variable {bits : List Bool}

/-! ## One octet -/

/-- The number that bits spell, the first of them highest, is less than the next power of two. -/
theorem foldl_range_lt (bit : Nat → Bool) (n : Nat) :
    (List.range n).foldl (fun m place => m * 2 + (bit place).toNat) 0 < 2 ^ n := by
  induction n with
  | zero => simp
  | succ n ih =>
      rw [List.range_succ, List.foldl_concat, pow_succ]
      have hbit := (bit n).toNat_lt
      omega

/-- The bits of a number that bits spell are these bits, counted from the highest. -/
theorem testBit_foldl_range (bit : Nat → Bool) {n place : Nat} (h : place < n) :
    ((List.range n).foldl (fun m place => m * 2 + (bit place).toNat) 0).testBit (n - 1 - place)
      = bit place := by
  induction n with
  | zero => exact absurd h (Nat.not_lt_zero place)
  | succ n ih =>
      rw [List.range_succ, List.foldl_concat]
      have hbit := (bit n).toNat_lt
      rcases Nat.lt_succ_iff_lt_or_eq.1 h with hlt | rfl
      · -- Every bit in front of the last one moves up by a place.
        have hplace : n + 1 - 1 - place = (n - 1 - place) + 1 := by omega
        rw [hplace, Nat.testBit_succ, ← ih hlt]
        congr 1
        omega
      · rw [Nat.add_sub_cancel, Nat.sub_self, Nat.testBit_zero]
        cases bit place <;> simp

theorem testBit_packOctet (bits : List Bool) {place : Nat} (h : place < 8) :
    testBit (packOctet bits) place = bits.getD place false := by
  have hlt := foldl_range_lt (bits.getD · false) 8
  rw [testBit, packOctet, UInt8.toNat_ofNat_of_lt' hlt]
  exact testBit_foldl_range (bits.getD · false) h

/-- Setting a bit of an octet leaves the others as they are. -/
theorem testBit_or_bit (o : UInt8) {place other : Nat} (h : place < 8) (h' : other < 8) :
    testBit (o ||| 0x80 >>> UInt8.ofNat place) other = (testBit o other || other == place) := by
  have hbit : (0x80 >>> UInt8.ofNat place : UInt8).toNat = 2 ^ (7 - place) := by
    interval_cases place <;> rfl
  rw [testBit, UInt8.toNat_or, Nat.testBit_or, hbit, Nat.testBit_two_pow, testBit]
  congr 1
  rw [Bool.eq_iff_iff, decide_eq_true_eq, beq_iff_eq]
  omega

/-- An octet is known from its eight bits. -/
theorem octet_ext {o o' : UInt8} (h : ∀ place < 8, testBit o place = testBit o' place) :
    o = o' := by
  rw [← UInt8.toNat_inj]
  refine Nat.eq_of_testBit_eq fun i => ?_
  by_cases hi : i < 8
  · have hplace : 7 - (7 - i) = i := by omega
    have hsame := h (7 - i) (by omega)
    rwa [testBit, testBit, hplace] at hsame
  · have hpow : 2 ^ 8 ≤ 2 ^ i := Nat.pow_le_pow_right (by decide) (Nat.not_lt.1 hi)
    rw [Nat.testBit_lt_two_pow (Nat.lt_of_lt_of_le o.toNat_lt hpow),
      Nat.testBit_lt_two_pow (Nat.lt_of_lt_of_le o'.toNat_lt hpow)]

/-! ## A row of octets -/

/-- So many octets of eight bits each, with zeros behind the last bit. -/
def row (count : Nat) (bits : List Bool) : Octets :=
  (List.range count).map fun k => packOctet ((bits.drop (8 * k)).take 8)

@[simp] theorem length_row (count : Nat) (bits : List Bool) : (row count bits).length = count := by
  simp [row]

theorem getElem?_row {count k : Nat} (h : k < count) (bits : List Bool) :
    (row count bits)[k]? = some (packOctet ((bits.drop (8 * k)).take 8)) := by
  rw [row, List.getElem?_map, List.getElem?_range h, Option.map_some]

/-- A bit stands in the octet and at the place that its index gives. -/
theorem testBit_of_getElem?_row {count i : Nat} {o : UInt8}
    (h : (row count bits)[i / 8]? = some o) : testBit o (i % 8) = bits.getD i false := by
  obtain ⟨hlt, -⟩ := List.getElem?_eq_some_iff.1 h
  rw [length_row] at hlt
  rw [getElem?_row hlt, Option.some_inj] at h
  have hplace : i % 8 < 8 := Nat.mod_lt i (by decide)
  rw [← h, testBit_packOctet _ hplace, List.getD_eq_getElem?_getD,
    List.getElem?_take_of_lt hplace, List.getElem?_drop, Nat.div_add_mod,
    List.getD_eq_getElem?_getD]

/-- Octets are a row of bits if each of their bits is. -/
theorem eq_row {count : Nat} {octets : Octets} (hlength : octets.length = count)
    (h : ∀ i o, octets[i / 8]? = some o → testBit o (i % 8) = bits.getD i false) :
    octets = row count bits := by
  refine List.ext_getElem? fun k => ?_
  by_cases hk : k < count
  · obtain ⟨o, ho⟩ : ∃ o, octets[k]? = some o := ⟨_, List.getElem?_eq_getElem (hlength ▸ hk)⟩
    obtain ⟨o', ho'⟩ : ∃ o', (row count bits)[k]? = some o' := ⟨_, getElem?_row hk bits⟩
    have hsame : o = o' := by
      apply octet_ext
      intro place hplace
      have hdiv : (8 * k + place) / 8 = k := by omega
      have hmod : (8 * k + place) % 8 = place := by omega
      have hbit := h (8 * k + place) o (by rw [hdiv, ho])
      have hbit' := testBit_of_getElem?_row (i := 8 * k + place) (by rw [hdiv, ho'])
      rw [hmod] at hbit hbit'
      rw [hbit, hbit']
    rw [ho, ho', hsame]
  · rw [List.getElem?_eq_none (by omega), List.getElem?_eq_none (by simpa using hk)]

/-! ## Bit strings -/

/-- A bit string holds the bits of a list, in as few octets as there can be and with no other bit
    set. -/
structure Packs (b : BitString) (bits : List Bool) : Prop where
  length : b.length = bits.length
  bit? : ∀ i, b.bit? i = bits[i]?
  unusedBits : b.unusedBits ≤ 7
  octets : b.octets.length = (bits.length + 7) / 8
  padding : ∀ i o, bits.length ≤ i → b.octets[i / 8]? = some o → testBit o (i % 8) = false

/-- A bit string holds the bits of one list at most. -/
theorem Packs.unique {b : BitString} {bits' : List Bool} (h : b.Packs bits) (h' : b.Packs bits') :
    bits = bits' := by
  apply List.ext_getElem?
  intro i
  rw [← h.bit?, ← h'.bit?]

theorem pack_eq_row (bits : List Bool) : pack bits = row ((bits.length + 7) / 8) bits := rfl

theorem length_pack (bits : List Bool) : (pack bits).length = (bits.length + 7) / 8 := by
  rw [pack_eq_row, length_row]

theorem length_ofBits (bits : List Bool) : (ofBits bits).length = bits.length := by
  have hunused : (pack bits).length * 8 - bits.length < 2 ^ 8 := by
    rw [length_pack]
    omega
  rw [length, ofBits, UInt8.toNat_ofNat_of_lt' hunused, length_pack]
  omega

theorem bit?_ofBits (bits : List Bool) (i : Nat) : (ofBits bits).bit? i = bits[i]? := by
  rw [bit?, length_ofBits]
  by_cases hi : i < bits.length
  · have hoctet : i / 8 < (bits.length + 7) / 8 := by omega
    have hget := getElem?_row hoctet bits
    rw [if_pos hi, ofBits, pack_eq_row, hget, Option.map_some, testBit_of_getElem?_row hget,
      List.getD_eq_getElem?_getD, List.getElem?_eq_getElem hi, Option.getD_some]
  · rw [if_neg hi, List.getElem?_eq_none (Nat.not_lt.1 hi)]

theorem packs_ofBits (bits : List Bool) : (ofBits bits).Packs bits where
  length := length_ofBits bits
  bit? := bit?_ofBits bits
  unusedBits := unusedBits_ofBits bits
  octets := length_pack bits
  padding := by
    intro i o hi ho
    have ho' : (row ((bits.length + 7) / 8) bits)[i / 8]? = some o := ho
    rw [testBit_of_getElem?_row ho', List.getD_eq_getElem?_getD, List.getElem?_eq_none hi]
    rfl

/-! ## Bits set one after the other -/

/-- A bit more stands behind the others, with no bit behind it. -/
theorem getD_concat (bits : List Bool) (b : Bool) (i : Nat) :
    (bits ++ [b]).getD i false = if i = bits.length then b else bits.getD i false := by
  rcases Nat.lt_trichotomy i bits.length with hi | rfl | hi
  · rw [if_neg (Nat.ne_of_lt hi), List.getD_append _ _ _ _ hi]
  · simp
  · have hbehind : (bits ++ [b]).length ≤ i := by
      rw [List.length_append, List.length_singleton]
      exact hi
    rw [if_neg (Nat.ne_of_gt hi), List.getD_eq_default _ _ hbehind,
      List.getD_eq_default _ _ (Nat.le_of_lt hi)]

/-- A bit that is not set changes nothing in a row. -/
theorem row_concat_false (count : Nat) (bits : List Bool) :
    row count (bits ++ [false]) = row count bits := by
  symm
  refine eq_row (length_row count bits) fun i o ho => ?_
  rw [testBit_of_getElem?_row ho, getD_concat]
  split
  · next hi => rw [hi, List.getD_eq_default _ _ (Nat.le_refl _)]
  · rfl

/-- A bit that is set changes one octet of a row, and one bit of that. -/
theorem row_concat_true {count : Nat} {o : UInt8}
    (ho : (row count bits)[bits.length / 8]? = some o) :
    row count (bits ++ [true]) = (row count bits).set (bits.length / 8)
      (o ||| 0x80 >>> UInt8.ofNat (bits.length % 8)) := by
  symm
  have hplace : ∀ i, i % 8 < 8 := fun i => Nat.mod_lt i (by decide)
  refine eq_row (by simp) fun i o' ho' => ?_
  rw [getD_concat]
  by_cases hoctet : i / 8 = bits.length / 8
  · obtain ⟨hlt, -⟩ := List.getElem?_eq_some_iff.1 ho
    rw [hoctet, List.getElem?_set_self hlt, Option.some_inj] at ho'
    rw [← hoctet] at ho
    rw [← ho', testBit_or_bit o (hplace _) (hplace i), testBit_of_getElem?_row ho]
    by_cases hi : i = bits.length
    · rw [if_pos hi, hi, beq_self_eq_true, Bool.or_true]
    · have hne : i % 8 ≠ bits.length % 8 := by omega
      rw [if_neg hi, beq_eq_false_iff_ne.2 hne, Bool.or_false]
  · have hi : i ≠ bits.length := fun hi => hoctet (by rw [hi])
    rw [List.getElem?_set_ne (Ne.symm hoctet)] at ho'
    rw [testBit_of_getElem?_row ho', if_neg hi]

/-- Bits that are set one after the other in octets of zeros end up as the row of them, and every
    octet in which one is set is there. -/
theorem foldlM_setBitChecked {count : Nat} (bits : List Bool) (h : bits.length ≤ 8 * count) :
    bits.zipIdx.foldlM (fun octets (bit, place) =>
      if bit then setBitChecked octets place else pure octets) (List.replicate count 0)
        = .ok (row count bits) := by
  induction bits using List.reverseRecOn with
  | nil =>
      refine congrArg Except.ok (eq_row (List.length_replicate ..) fun i o ho => ?_)
      rw [List.getElem?_replicate] at ho
      split at ho
      · cases ho
        simp [testBit]
      · cases ho
  | append_singleton bits b ih =>
      rw [List.length_append, List.length_singleton] at h
      have hoctet : bits.length / 8 < count := by omega
      have ho := getElem?_row hoctet bits
      rw [List.zipIdx_append, List.foldlM_append, ih (by omega), Checked.ok_bind, Nat.zero_add]
      cases b with
      | false =>
          rw [row_concat_false]
          rfl
      | true =>
          rw [row_concat_true ho]
          simp [setBitChecked, Checked.item_of_getElem? ho]

/-- Setting one bit after the other stays within the octets and packs the same bit string. -/
theorem ofBitsChecked_eq (bits : List Bool) : ofBitsChecked bits = .ok (ofBits bits) := by
  have hroom : bits.length ≤ 8 * ((bits.length + 7) / 8) := by omega
  rw [ofBitsChecked, foldlM_setBitChecked bits hroom, Checked.ok_bind, length_row,
    Checked.difference_of_le (by omega)]
  rw [ofBits, pack_eq_row, length_row]
  rfl

/-! ## On the wire -/

/-- The application-tagged form of a bit string. -/
def tagged (b : BitString) : Octets :=
  (Tag.application .bitString (.ofNat (b.octets.length + 1))).encode.octets
    ++ b.unusedBits :: b.octets

theorem octets_encode {b : BitString} (h : (Value.bitString b).Fits) :
    (Value.bitString b).encode.octets = b.tagged := by
  rw [Value.encode, if_neg (UInt8.not_lt.2 h.1), Contents.octets_encodeHeaded h.2,
    Contents.octets_tagged, List.length_cons, tagged]

/-- The bit string of a list has the bits of the list and no others. If it fits its tag it is
    written wherever there is room for it, as an application-tagged bit string, and what is written
    is read back as a bit string of the same list. No other list has the same value. -/
theorem ofBits_keeps (bits : List Bool) :
    (ofBits bits).Packs bits ∧
    ((ofBits bits).octets.length < 0xFFFFFFFF →
      (∀ w : Writer, (ofBits bits).tagged.length ≤ w.remaining →
        Writer.put (Value.bitString (ofBits bits)).encode w
          = .ok () (w.advance (ofBits bits).tagged)) ∧
      ∃ b : BitString, b.Packs bits ∧
        ∀ rest, Value.decode.Reads (ofBits bits).tagged (.bitString b) rest) ∧
    ∀ other, Value.bitString (ofBits other) = .bitString (ofBits bits) → other = bits := by
  have hpacks := packs_ofBits bits
  refine ⟨hpacks, ?_, ?_⟩
  · intro hshort
    have hfits : (Value.bitString (ofBits bits)).Fits := by
      refine ⟨hpacks.unusedBits, ?_⟩
      omega
    rw [← octets_encode hfits]
    refine ⟨?_, ofBits bits, hpacks, ?_⟩
    · intro w hroom
      exact Writer.put_of_le (Value.fault_encode_atom rfl hfits) hroom
    · intro rest
      exact Value.reads_decode rfl hfits rest
  · intro other hsame
    have hother := packs_ofBits other
    rw [Value.bitString.inj hsame] at hother
    exact hother.unique hpacks

/-- Nine bits take two octets, of which the second has seven unused bits, behind an octet that
    stands already. -/
theorem ofBits_keeps_nine :
    let bits := [true, false, true, true, false, false, false, false, true]
    let b := ofBits bits
    b = ⟨7, [0xB0, 0x80]⟩ ∧ b.octets.length < 0xFFFFFFFF ∧ b.bit? 8 = some true ∧
    b.bit? 9 = none ∧
    Writer.put (Value.bitString b).encode ⟨[0xAA], [1, 2, 3, 4, 5]⟩
      = .ok () ⟨[0xAA, 0x83, 7, 0xB0, 0x80], [5]⟩ ∧
    ∃ b', BitString.Packs b' bits ∧
      Value.decode.Reads [0x83, 7, 0xB0, 0x80] (.bitString b') [0xFF] := by
  intro bits b
  have hb : b = ⟨7, [0xB0, 0x80]⟩ := by decide +kernel
  have hshort : b.octets.length < 0xFFFFFFFF := by decide +kernel
  have htagged : b.tagged = [0x83, 7, 0xB0, 0x80] := by decide +kernel
  obtain ⟨hpacks, hwire, -⟩ := ofBits_keeps bits
  obtain ⟨hput, b', hb', hread⟩ := hwire hshort
  have hput' := hput ⟨[0xAA], [1, 2, 3, 4, 5]⟩ (by decide +kernel)
  have hread' := hread [0xFF]
  have hlast := hpacks.bit? 8
  have hnone := hpacks.bit? 9
  change Writer.put (Value.bitString b).encode _ = .ok () (Writer.advance _ b.tagged) at hput'
  change Value.decode.Reads b.tagged _ _ at hread'
  rw [htagged] at hput' hread'
  exact ⟨hb, hshort, hlast, hnone, hput', b', hb', hread'⟩

end BitString

end Bacnet
