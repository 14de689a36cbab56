import Bacnet.Proofs.Covering
import Bacnet.Proofs.Lengths
import Bacnet.Proofs.Value
import Mathlib.Algebra.Order.Ring.Int
import Mathlib.Tactic.Ring

set_option autoImplicit false

/-! # Least written forms

An integer may begin with zeros or with copies of its sign, and the tag in front of it may spell its
number and its length in more octets than it needs. All of these are read, and none is written: the
contents of an integer are the shortest octets that spell it (`shortest_ofUnsigned`,
`shortest_ofSigned`), and a value or a tag takes at most as many octets as any input that is read as
it (`encode_minimal`). -/

namespace Bacnet

open Decode

/-! ## Integers in octets -/

namespace Octets

/-- The integer that octets spell in two's complement, however many they are. -/
def toInt (octets : Octets) : Int :=
  if octets.headD 0 < 0x80 then toNat octets else toNat octets - 256 ^ octets.length

/-- Octets, one at least, and no fewer spell the same. -/
structure Shortest {α : Type} (spelled : Octets → α) (octets : Octets) : Prop where
  ne_nil : octets ≠ []
  length_le : ∀ other, other ≠ [] → spelled other = spelled octets → octets.length ≤ other.length

/-- The first octet of a shortest spelling cannot be left out. -/
theorem Shortest.spelled_tail_ne {α : Type} {spelled : Octets → α} {o : UInt8} {tail : Octets}
    (h : Shortest spelled (o :: tail)) (htail : tail ≠ []) :
    spelled tail ≠ spelled (o :: tail) := by
  intro hsame
  have hle := h.length_le tail htail hsame
  rw [List.length_cons] at hle
  exact Nat.not_succ_le_self _ hle

theorem toNat_cons_zero (tail : Octets) : toNat (0 :: tail) = toNat tail := by
  rw [toNat_cons]
  simp

theorem toInt_cons_of_lt {o : UInt8} (h : o < 0x80) (tail : Octets) :
    toInt (o :: tail) = o.toNat * 256 ^ tail.length + toNat tail := by
  rw [toInt, List.headD_cons, if_pos h, toNat_cons]
  push_cast
  rfl

theorem toInt_cons_of_le {o : UInt8} (h : 0x80 ≤ o) (tail : Octets) :
    toInt (o :: tail) = (o.toNat - 256) * 256 ^ tail.length + toNat tail := by
  rw [toInt, List.headD_cons, if_neg (UInt8.not_lt.2 h), toNat_cons, List.length_cons, pow_succ]
  push_cast
  ring

theorem toInt_cons_zero {o : UInt8} (h : o < 0x80) (tail : Octets) :
    toInt (0 :: o :: tail) = toInt (o :: tail) := by
  rw [toInt_cons_of_lt (by decide), toInt_cons_of_lt h, toNat_cons]
  push_cast
  simp

theorem toInt_cons_max {o : UInt8} (h : 0x80 ≤ o) (tail : Octets) :
    toInt (0xFF :: o :: tail) = toInt (o :: tail) := by
  have hmax : (0xFF : UInt8).toNat = 255 := rfl
  rw [toInt_cons_of_le (by decide), toInt_cons_of_le h, toNat_cons, List.length_cons, pow_succ,
    hmax]
  push_cast
  ring

/-- A digit bounds the number that it begins. -/
theorem place_bounds {digit low high place rest : Int} (hlow : low ≤ digit) (hhigh : digit < high)
    (hrest : 0 ≤ rest) (hlt : rest < place) :
    low * place ≤ digit * place + rest ∧ digit * place + rest < high * place := by
  have hplace : 0 ≤ place := by omega
  constructor
  · calc low * place ≤ digit * place := mul_le_mul_of_nonneg_right hlow hplace
      _ ≤ digit * place + rest := by omega
  · calc digit * place + rest < digit * place + place := by omega
      _ = (digit + 1) * place := by ring
      _ ≤ high * place := mul_le_mul_of_nonneg_right hhigh hplace

/-- The first bit counts down, so it leaves half of the range on either side of zero. -/
theorem toInt_bounds (o : UInt8) (tail : Octets) :
    -(128 * 256 ^ tail.length : Int) ≤ toInt (o :: tail) ∧
      toInt (o :: tail) < (128 * 256 ^ tail.length : Int) := by
  have hlt : (toNat tail : Int) < 256 ^ tail.length := by exact_mod_cast toNat_lt tail
  have hpos : (0 : Int) ≤ toNat tail := Int.natCast_nonneg _
  have hmax := o.toNat_lt
  rw [← neg_mul]
  by_cases h : o < 0x80
  · have ho : o.toNat < 128 := UInt8.lt_iff_toNat_lt.1 h
    rw [toInt_cons_of_lt h]
    exact place_bounds (by omega) (by omega) hpos hlt
  · have hle : 0x80 ≤ o := UInt8.not_lt.1 h
    have ho : 128 ≤ o.toNat := UInt8.le_iff_toNat_le.1 hle
    rw [toInt_cons_of_le hle]
    exact place_bounds (by omega) (by omega) hpos hlt

end Octets

/-! ## Integers in as few octets as hold them -/

namespace Contents

variable {r r' : Reader}

theorem toNat_ofUnsigned (n : UInt32) : Octets.toNat (ofUnsigned n) = n.toNat := by
  obtain ⟨-, -, hlt⟩ := unsignedWidth_bounds n
  exact Octets.toNat_ofNat_of_lt hlt

theorem ofUnsigned_ne_nil (n : UInt32) : ofUnsigned n ≠ [] := by
  obtain ⟨hpos, -, -⟩ := unsignedWidth_bounds n
  rw [← length_ofUnsigned] at hpos
  exact List.ne_nil_of_length_pos hpos

theorem shortest_ofUnsigned (n : UInt32) : Octets.Shortest Octets.toNat (ofUnsigned n) := by
  refine ⟨ofUnsigned_ne_nil n, fun other hother hvalue => ?_⟩
  rw [toNat_ofUnsigned] at hvalue
  rw [length_ofUnsigned]
  refine unsignedWidth_le (List.length_pos_iff.2 hother) ?_
  rw [← hvalue]
  exact Octets.toNat_lt other

theorem signedOfOctets_eq (octets : Octets) :
    signedOfOctets octets = .ofInt (Octets.toInt octets) := by
  unfold signedOfOctets Octets.toInt
  dsimp only
  split <;> rfl

/-- Up to four octets spell an integer of 32 bits. -/
theorem toInt_signedOfOctets {octets : Octets} (hpos : octets ≠ []) (hle : octets.length ≤ 4) :
    (signedOfOctets octets).toInt = Octets.toInt octets := by
  obtain ⟨o, tail, rfl⟩ := List.exists_cons_of_ne_nil hpos
  obtain ⟨hlow, hhigh⟩ := Octets.toInt_bounds o tail
  have hplace : (256 : Int) ^ tail.length ≤ 256 ^ 3 :=
    pow_le_pow_right₀ (by decide) (Nat.le_of_succ_le_succ hle)
  rw [signedOfOctets_eq]
  refine Int32.toInt_ofInt_of_le ?_ ?_
  · omega
  · omega

theorem ofSigned_ne_nil (n : Int32) : ofSigned n ≠ [] := by
  obtain ⟨k, -, hwidth, -⟩ := signedWidth_bounds n
  refine List.ne_nil_of_length_pos ?_
  rw [length_ofSigned, hwidth]
  exact Nat.succ_pos k

theorem toInt_ofSigned (n : Int32) : Octets.toInt (ofSigned n) = n.toInt := by
  obtain ⟨k, hk, hwidth, -⟩ := signedWidth_bounds n
  have hle : (ofSigned n).length ≤ 4 := by
    rw [length_ofSigned, hwidth]
    exact Nat.succ_le_succ hk
  rw [← toInt_signedOfOctets (ofSigned_ne_nil n) hle, signedOfOctets_ofSigned]

theorem signedWidth_eq (n : Int32) : signedWidth n
    = if -0x80 ≤ n.toInt ∧ n.toInt < 0x80 then 1
      else if -0x8000 ≤ n.toInt ∧ n.toInt < 0x8000 then 2
      else if -0x800000 ≤ n.toInt ∧ n.toInt < 0x800000 then 3
      else 4 := by
  unfold signedWidth
  simp only [Int32.lt_iff_toInt_lt, Int32.le_iff_toInt_le]
  rfl

theorem signedWidth_le {n : Int32} {k : Nat} (hlow : -(128 * 256 ^ k : Int) ≤ n.toInt)
    (hhigh : n.toInt < (128 * 256 ^ k : Int)) : signedWidth n ≤ k + 1 := by
  have hk : k = 0 ∨ k = 1 ∨ k = 2 ∨ 3 ≤ k := by omega
  rw [signedWidth_eq]
  rcases hk with rfl | rfl | rfl | hk <;> split_ifs <;> omega

theorem shortest_ofSigned (n : Int32) : Octets.Shortest Octets.toInt (ofSigned n) := by
  refine ⟨ofSigned_ne_nil n, fun other hother hvalue => ?_⟩
  obtain ⟨o, tail, rfl⟩ := List.exists_cons_of_ne_nil hother
  obtain ⟨hlow, hhigh⟩ := Octets.toInt_bounds o tail
  rw [hvalue, toInt_ofSigned] at hlow hhigh
  rw [length_ofSigned]
  exact signedWidth_le hlow hhigh

/-- Copies of the sign in front of an integer are not written. -/
theorem covers_decodeSigned (length : Nat) : (decodeSigned length).Covers ofSigned := by
  intro r n r' h
  unfold decodeSigned at h
  obtain ⟨hlength, h⟩ := of_guard_eq_ok h
  obtain ⟨octets, r₁, hoctets, h⟩ := bind_eq_ok.1 h
  cases h
  have hcount := length_of_octets hoctets
  have hpos : octets ≠ [] := by
    refine List.ne_nil_of_length_pos ?_
    omega
  refine ((exact_octets length).covers hoctets).of_le ?_
  refine (shortest_ofSigned _).length_le octets hpos ?_
  rw [toInt_ofSigned, toInt_signedOfOctets hpos (by omega)]

/-- The contents that an unsigned integer is written with. -/
structure LeastUnsigned (n : UInt32) (contents : Octets) : Prop where
  value : Octets.toNat contents = n.toNat
  shortest : Octets.Shortest Octets.toNat contents
  zero : n = 0 → contents = [0]
  head_ne : n ≠ 0 → contents.head? ≠ some 0

/-- The contents that a signed integer is written with. -/
structure LeastSigned (n : Int32) (contents : Octets) : Prop where
  value : Octets.toInt contents = n.toInt
  shortest : Octets.Shortest Octets.toInt contents
  /-- The first octet does not only repeat the sign of the second. -/
  head_ne : ∀ o second tail, contents = o :: second :: tail →
    ¬ (o = 0 ∧ second < 0x80) ∧ ¬ (o = 0xFF ∧ 0x80 ≤ second)

theorem leastUnsigned_ofUnsigned (n : UInt32) : LeastUnsigned n (ofUnsigned n) where
  value := toNat_ofUnsigned n
  shortest := shortest_ofUnsigned n
  zero := by
    rintro rfl
    rfl
  head_ne := by
    intro hn hhead
    have hvalue := toNat_ofUnsigned n
    have hshortest := shortest_ofUnsigned n
    obtain ⟨tail, htail⟩ := List.head?_eq_some_iff.1 hhead
    rw [htail] at hvalue hshortest
    by_cases hnil : tail = []
    · subst hnil
      exact hn (UInt32.toNat_inj.1 hvalue.symm)
    · exact hshortest.spelled_tail_ne hnil (Octets.toNat_cons_zero tail).symm

theorem leastSigned_ofSigned (n : Int32) : LeastSigned n (ofSigned n) where
  value := toInt_ofSigned n
  shortest := shortest_ofSigned n
  head_ne := by
    intro o second tail hcontents
    have hshortest := shortest_ofSigned n
    rw [hcontents] at hshortest
    have hne := hshortest.spelled_tail_ne (List.cons_ne_nil second tail)
    constructor
    · rintro ⟨rfl, hsecond⟩
      exact hne (Octets.toInt_cons_zero hsecond tail).symm
    · rintro ⟨rfl, hsecond⟩
      exact hne (Octets.toInt_cons_max hsecond tail).symm

theorem length_ofSigned_lt_five (n : Int32) : (ofSigned n).length < 5 := by
  obtain ⟨k, hk, hwidth, -⟩ := signedWidth_bounds n
  rw [length_ofSigned, hwidth]
  exact Nat.succ_lt_succ (Nat.lt_succ_of_le hk)

theorem covers_of_decodeWord64 {length : Nat} {word : UInt64}
    (h : decodeWord64 length r = .ok word r') :
    (Octets.ofUInt64 word).length = length ∧ r.Covers (Octets.ofUInt64 word) r' := by
  obtain ⟨taken, htaken, hconsumes⟩ := takes_decodeWord64 length h
  unfold decodeWord64 at h
  obtain ⟨hlength, -⟩ := of_guard_eq_ok h
  obtain rfl : length = 8 := Decidable.not_not.1 hlength
  have hword := Octets.length_ofUInt64 word
  exact ⟨hword, hconsumes.covers.of_le (Nat.le_of_eq (hword.trans htaken.symm))⟩

end Contents

/-! ## Values and tags -/

/-- What an encoding writes into any buffer that has the room. -/
def Encoding.Writes (e : Encoding) (written : Octets) : Prop :=
  ∀ capacity, written.length ≤ capacity → e.within capacity = .ok written

theorem Encoding.writes_octets {e : Encoding} (h : e.fault = none) : e.Writes e.octets :=
  fun _ hcapacity => within_eq_ok_iff.2 ⟨h, hcapacity, rfl⟩

theorem Contents.writes_tagged (tag : UInt32 → Tag) (contents : Octets) :
    (tagged tag contents).Writes ((tag (.ofNat contents.length)).encode.octets ++ contents) := by
  rw [← octets_tagged]
  exact Encoding.writes_octets (fault_tagged tag contents)

namespace Value

variable {tag : AppTag} {length : UInt32} {r r' r₁ : Reader} {v : Value}

theorem eq_of_decodeBitString {length : Nat} {bits : BitString}
    (h : decodeBitString length r = .ok bits r') : bits.unusedBits ≤ 7 ∧
      (bits.unusedBits :: bits.octets).length = length ∧
      r.Consumes (bits.unusedBits :: bits.octets) r' := by
  unfold decodeBitString at h
  obtain ⟨octets, r₁, hoctets, h⟩ := bind_eq_ok.1 h
  have hlength := length_of_octets hoctets
  have hconsumes := (exact_octets length).consumes hoctets
  cases octets with
  | nil => cases h
  | cons unusedBits octets =>
      obtain ⟨hunused, h⟩ := of_guard_eq_ok h
      cases h
      exact ⟨UInt8.not_lt.1 hunused, hlength, hconsumes⟩

/-- Whatever is read behind an application tag is an atom with a written form, and that is no
    longer than what it was read from. -/
theorem covers_decodeContents (htag : Tag.decode r = .ok (.application tag length) r₁)
    (h : decodeContents tag length r₁ = .ok v r') :
    v.isList = false ∧ v.Fits ∧ r.Covers v.encode.octets r' := by
  have htagged : ∀ {contents : Octets}, r₁.Covers contents r' →
      contents.length < 5 ∨ contents.length = length.toNat →
      r.Covers (Contents.tagged (.application tag) contents).octets r' :=
    Contents.covers_tagged (fun _ => rfl) htag
  have hbare : ∀ {short : UInt32}, short < 5 →
      r.Covers (Tag.application tag short).encode.octets r₁ := fun hshort =>
    (Tag.covers_decode htag).of_le (Tag.length_encodeWithLength_le tag.number 0 (.inl hshort))
  cases tag with
  | null =>
      cases h
      exact ⟨rfl, trivial, hbare (by decide)⟩
  | boolean =>
      cases h
      refine ⟨rfl, trivial, hbare ?_⟩
      cases length != 0 <;> decide
  | unsignedInt =>
      obtain ⟨n, hn, rfl⟩ := map_eq_ok.1 h
      have hshort := Contents.length_ofUnsigned_lt_five n
      exact ⟨rfl, trivial, htagged (Contents.covers_decodeUnsigned _ hn) (.inl hshort)⟩
  | signedInt =>
      obtain ⟨n, hn, rfl⟩ := map_eq_ok.1 h
      have hshort := Contents.length_ofSigned_lt_five n
      exact ⟨rfl, trivial, htagged (Contents.covers_decodeSigned _ hn) (.inl hshort)⟩
  | enumerated =>
      obtain ⟨n, hn, rfl⟩ := map_eq_ok.1 h
      have hshort := Contents.length_ofUnsigned_lt_five n
      exact ⟨rfl, trivial, htagged (Contents.covers_decodeUnsigned _ hn) (.inl hshort)⟩
  | real =>
      obtain ⟨word, hword, rfl⟩ := map_eq_ok.1 h
      exact ⟨rfl, trivial, htagged (Contents.covers_decodeWord32 _ hword) (.inl (by simp))⟩
  | objectId =>
      obtain ⟨word, hword, rfl⟩ := map_eq_ok.1 h
      exact ⟨rfl, trivial, htagged (Contents.covers_decodeWord32 _ hword) (.inl (by simp))⟩
  | double =>
      obtain ⟨word, hword, rfl⟩ := map_eq_ok.1 h
      obtain ⟨hlength, hcovers⟩ := Contents.covers_of_decodeWord64 hword
      exact ⟨rfl, trivial, htagged hcovers (.inr hlength)⟩
  | characterString =>
      obtain ⟨text, htext, rfl⟩ := map_eq_ok.1 h
      obtain ⟨hlength, hconsumes⟩ := Contents.eq_of_decodeText htext
      have hfits : (Octets.ofString text).length + 1 < 0x100000000 := by
        rw [← List.length_cons, hlength]
        exact length.toNat_lt
      refine ⟨rfl, hfits, ?_⟩
      rw [encode, Contents.encodeText, Contents.octets_encodeHeaded hfits]
      exact htagged hconsumes.covers (.inr hlength)
  | bitString =>
      obtain ⟨bits, hbits, rfl⟩ := map_eq_ok.1 h
      obtain ⟨hunused, hlength, hconsumes⟩ := eq_of_decodeBitString hbits
      have hfits : bits.octets.length + 1 < 0x100000000 := by
        rw [← List.length_cons, hlength]
        exact length.toNat_lt
      refine ⟨rfl, ⟨hunused, hfits⟩, ?_⟩
      rw [encode, if_neg (UInt8.not_lt.2 hunused), Contents.octets_encodeHeaded hfits]
      exact htagged hconsumes.covers (.inr hlength)
  | octetString => cases h
  | date => cases h
  | time => cases h

theorem covers_of_decode (h : decode r = .ok v r') :
    v.isList = false ∧ v.Fits ∧ r.Covers v.encode.octets r' := by
  obtain ⟨tag, length, r₁, htag, hcontents⟩ := exists_application_of_decode h
  exact covers_decodeContents htag hcontents

/-- Whatever is read as a value or as a tag is written with at most as many octets. Whichever tag
    stands in front, an unsigned integer is written with the shortest octets that spell it, so with
    no zero in front unless it is zero itself, and a signed integer with the shortest two's
    complement, so with no copy of its sign in front. So are the values that are integers. -/
theorem encode_minimal :
    (∀ r v r', decode r = .ok v r' →
      v.isList = false ∧ ∃ written, v.encode.Writes written ∧ r.Covers written r') ∧
    (∀ r (t : Tag) r', Tag.decode r = .ok t r' →
      ∃ written, t.encode.Writes written ∧ r.Covers written r') ∧
    (∀ (tag : UInt32 → Tag) (n : UInt32), ∃ contents, Contents.LeastUnsigned n contents ∧
      (Contents.encodeUnsigned tag n).Writes
        ((tag (.ofNat contents.length)).encode.octets ++ contents)) ∧
    (∀ (tag : UInt32 → Tag) (n : Int32), ∃ contents, Contents.LeastSigned n contents ∧
      (Contents.encodeSigned tag n).Writes
        ((tag (.ofNat contents.length)).encode.octets ++ contents)) ∧
    (∀ n : UInt32, ∃ contents, Contents.LeastUnsigned n contents ∧
      (unsigned n).encode.Writes
        ((Tag.application .unsignedInt (.ofNat contents.length)).encode.octets ++ contents) ∧
      (enumerated n).encode.Writes
        ((Tag.application .enumerated (.ofNat contents.length)).encode.octets ++ contents)) ∧
    ∀ n : Int32, ∃ contents, Contents.LeastSigned n contents ∧
      (signed n).encode.Writes
        ((Tag.application .signedInt (.ofNat contents.length)).encode.octets ++ contents) := by
  refine ⟨?_, ?_, ?_, ?_, ?_, ?_⟩
  · intro r v r' h
    obtain ⟨hatom, hfits, hcovers⟩ := covers_of_decode h
    have hfault := fault_encode_atom hatom hfits
    exact ⟨hatom, v.encode.octets, Encoding.writes_octets hfault, hcovers⟩
  · intro r t r' h
    exact ⟨t.encode.octets, Encoding.writes_octets (Tag.fault_encode t), Tag.covers_decode h⟩
  · intro tag n
    have hwrites := Contents.writes_tagged tag (Contents.ofUnsigned n)
    exact ⟨Contents.ofUnsigned n, Contents.leastUnsigned_ofUnsigned n, hwrites⟩
  · intro tag n
    have hwrites := Contents.writes_tagged tag (Contents.ofSigned n)
    exact ⟨Contents.ofSigned n, Contents.leastSigned_ofSigned n, hwrites⟩
  · intro n
    refine ⟨Contents.ofUnsigned n, Contents.leastUnsigned_ofUnsigned n, ?_, ?_⟩
    · rw [encode, Contents.encodeUnsigned]
      exact Contents.writes_tagged _ _
    · rw [encode, Contents.encodeUnsigned]
      exact Contents.writes_tagged _ _
  · intro n
    refine ⟨Contents.ofSigned n, Contents.leastSigned_ofSigned n, ?_⟩
    rw [encode, Contents.encodeSigned]
    exact Contents.writes_tagged _ _

/-- A zero of four octets whose tag spells its number and its length at full length, and the same
    tag alone. They are written with two octets and with one. -/
theorem encode_minimal_padded :
    decode (.ofOctets [0xF5, 2, 255, 0, 0, 0, 4, 0, 0, 0, 0]) = .ok (unsigned 0) ⟨11, []⟩ ∧
    (∃ written, (unsigned 0).encode.Writes written ∧
      (Reader.ofOctets [0xF5, 2, 255, 0, 0, 0, 4, 0, 0, 0, 0]).Covers written ⟨11, []⟩) ∧
    (unsigned 0).encode.within 2 = .ok [0x21, 0] ∧
    Tag.decode (.ofOctets [0xF5, 2, 255, 0, 0, 0, 4]) = .ok (.application .unsignedInt 4) ⟨7, []⟩ ∧
    (∃ written, (Tag.application .unsignedInt 4).encode.Writes written ∧
      (Reader.ofOctets [0xF5, 2, 255, 0, 0, 0, 4]).Covers written ⟨7, []⟩) ∧
    (Tag.application .unsignedInt 4).encode.within 1 = .ok [0x24] :=
  ⟨rfl, (encode_minimal.1 _ _ _ rfl).2, rfl, rfl, encode_minimal.2.1 _ _ _ rfl, rfl⟩

/-- The octets around the boundaries where the width of a signed integer changes. -/
example : Contents.ofSigned 127 = [0x7F] ∧ Contents.ofSigned 128 = [0, 0x80] ∧
    Contents.ofSigned (-128) = [0x80] ∧ Contents.ofSigned (-129) = [0xFF, 0x7F] := by decide

end Value

end Bacnet
