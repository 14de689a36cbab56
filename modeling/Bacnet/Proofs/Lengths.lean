import Bacnet.Proofs.Bracketed

set_option autoImplicit false

/-! # Declared lengths

A tag declares how many octets of contents stand behind it, and each datatype allows some lengths
only (`AppTag.Allows`). A value honours its length if the datatype allows it and the contents are as
long as declared (`Value.Honoured`). Integers, words and strings refuse every other length before
they take an octet (`Value.decodeContents_of_not_allows`).

Two datatypes do not look at their length. A null takes no contents even if some are declared, and a
boolean is true for every length but zero: what was declared as their contents is then read as the
next tag. These are the only values that do not honour their length (`Value.honoured_iff`). -/

namespace Bacnet

open Decode

/-! ## Readings of a fixed length -/

namespace Decode

variable {α β : Type} {reading : Decode α} {n : Nat}

/-- Whenever a reading succeeds, it has taken this many octets. -/
def Takes (reading : Decode α) (n : Nat) : Prop :=
  ∀ ⦃r a r'⦄, reading r = .ok a r' → ∃ octets : Octets, octets.length = n ∧ r.Consumes octets r'

theorem Takes.pure (a : α) : Takes (pure a) 0 := by
  intro r b r' h
  cases h
  exact ⟨[], rfl, .nil r⟩

theorem Takes.throw (e : DecodeError) (n : Nat) : Takes (throw e : Decode α) n := by
  intro r a r' h
  cases h

/-- What takes nothing may stand behind a reading. -/
theorem Takes.bind_last {next : α → Decode β} (h : reading.Takes n)
    (hnext : ∀ a, (next a).Takes 0) : (reading >>= next).Takes n := by
  intro r b r' hread
  obtain ⟨a, r₁, hfront, hback⟩ := bind_eq_ok.1 hread
  obtain ⟨front, hlength, hconsumes⟩ := h hfront
  obtain ⟨back, hnil, hconsumes'⟩ := hnext a hback
  obtain rfl := List.length_eq_zero_iff.1 hnil
  exact ⟨front ++ [], by rw [List.append_nil, hlength], hconsumes.trans hconsumes'⟩

theorem Takes.map (f : α → β) (h : reading.Takes n) : (f <$> reading).Takes n := by
  rw [map_eq_bind]
  exact h.bind_last fun a => .pure (f a)

theorem Takes.guard {c : Prop} [Decidable c] {e : DecodeError} {next : PUnit → Decode β}
    (h : (next ⟨⟩).Takes n) : (if c then MonadExcept.throw e >>= next else next ⟨⟩).Takes n := by
  intro r b r' hread
  exact h (of_guard_eq_ok hread).2

theorem takes_octets (n : Nat) : (octets n).Takes n :=
  fun _ _ _ h => ⟨_, length_of_octets h, (exact_octets n).consumes h⟩

end Decode

/-! ## Contents -/

namespace Contents

variable {length : Nat} {r : Reader}

theorem takes_decodeUnsigned (length : Nat) : (decodeUnsigned length).Takes length := by
  unfold decodeUnsigned
  refine .guard ?_
  exact (takes_octets length).bind_last fun _ => .pure _

theorem takes_decodeSigned (length : Nat) : (decodeSigned length).Takes length := by
  unfold decodeSigned
  refine .guard ?_
  exact (takes_octets length).bind_last fun _ => .pure _

theorem takes_decodeWord32 (length : Nat) : (decodeWord32 length).Takes length := by
  intro r word r' h
  unfold decodeWord32 at h
  obtain ⟨hlength, hword⟩ := of_guard_eq_ok h
  obtain rfl : length = 4 := Decidable.not_not.1 hlength
  exact ((takes_octets 4).bind_last fun _ => .pure _) hword

theorem takes_decodeWord64 (length : Nat) : (decodeWord64 length).Takes length := by
  intro r word r' h
  unfold decodeWord64 at h
  obtain ⟨hlength, hword⟩ := of_guard_eq_ok h
  obtain rfl : length = 8 := Decidable.not_not.1 hlength
  exact ((takes_octets 8).bind_last fun _ => .pure _) hword

theorem takes_decodeText (length : Nat) : (decodeText length).Takes length := by
  unfold decodeText
  refine (takes_octets length).bind_last fun contents => ?_
  split
  · exact .throw ..
  · refine .guard ?_
    split
    · exact .pure _
    · exact .throw ..

theorem decodeUnsigned_of_length (h : ¬ (1 ≤ length ∧ length ≤ 4)) :
    decodeUnsigned length r = .error .invalidLength r := by
  unfold decodeUnsigned
  rw [if_pos (by omega)]
  rfl

theorem decodeSigned_of_length (h : ¬ (1 ≤ length ∧ length ≤ 4)) :
    decodeSigned length r = .error .invalidLength r := by
  unfold decodeSigned
  rw [if_pos (by omega)]
  rfl

theorem decodeWord32_of_length (h : length ≠ 4) :
    decodeWord32 length r = .error .invalidLength r := by
  unfold decodeWord32
  rw [if_pos h]
  rfl

theorem decodeWord64_of_length (h : length ≠ 8) :
    decodeWord64 length r = .error .invalidLength r := by
  unfold decodeWord64
  rw [if_pos h]
  rfl

theorem decodeText_of_length (h : ¬ 1 ≤ length) :
    decodeText length r = .error .invalidLength r := by
  obtain rfl := Nat.lt_one_iff.1 (Nat.lt_of_not_le h)
  rfl

end Contents

/-! ## Allowed lengths -/

namespace AppTag

/-- The lengths that the tag of a datatype may declare. Octet strings, dates and times are not
    handled at any length. -/
def Allows : AppTag → Nat → Prop
  | null, n => n = 0
  | boolean, n => n ≤ 1
  | unsignedInt, n => 1 ≤ n ∧ n ≤ 4
  | signedInt, n => 1 ≤ n ∧ n ≤ 4
  | enumerated, n => 1 ≤ n ∧ n ≤ 4
  | real, n => n = 4
  | double, n => n = 8
  | objectId, n => n = 4
  | characterString, n => 1 ≤ n
  | bitString, n => 1 ≤ n
  | octetString, _ => False
  | date, _ => False
  | time, _ => False

/-- Why a length that a datatype does not allow is refused. -/
def refusal : AppTag → DecodeError
  | octetString => .unsupported
  | date => .unsupported
  | time => .unsupported
  | _ => .invalidLength

/-- How many octets of contents a declared length stands for. A boolean has its value there. -/
def contentsLength : AppTag → Nat → Nat
  | boolean, _ => 0
  | _, n => n

theorem contentsLength_of_ne {tag : AppTag} (h : tag ≠ .boolean) (n : Nat) :
    tag.contentsLength n = n := by
  cases tag with
  | boolean => exact absurd rfl h
  | _ => rfl

end AppTag

namespace Value

variable {tag : AppTag} {length : UInt32} {r r' r₁ : Reader} {v : Value}

theorem takes_decodeBitString (length : Nat) : (decodeBitString length).Takes length := by
  unfold decodeBitString
  refine (takes_octets length).bind_last fun contents => ?_
  split
  · exact .throw ..
  · exact .guard (.pure _)

theorem decodeBitString_of_length {length : Nat} (h : ¬ 1 ≤ length) :
    decodeBitString length r = .error .invalidLength r := by
  obtain rfl := Nat.lt_one_iff.1 (Nat.lt_of_not_le h)
  rfl

/-- A null and a boolean take no contents, every other value takes as many as declared. -/
theorem takes_decodeContents (tag : AppTag) (length : UInt32) :
    (decodeContents tag length).Takes
      (if tag = .null ∨ tag = .boolean then 0 else length.toNat) := by
  cases tag with
  | null => exact .pure _
  | boolean => exact .pure _
  | unsignedInt => exact (Contents.takes_decodeUnsigned _).map _
  | signedInt => exact (Contents.takes_decodeSigned _).map _
  | real => exact (Contents.takes_decodeWord32 _).map _
  | double => exact (Contents.takes_decodeWord64 _).map _
  | octetString => exact .throw ..
  | characterString => exact (Contents.takes_decodeText _).map _
  | bitString => exact (takes_decodeBitString _).map _
  | enumerated => exact (Contents.takes_decodeUnsigned _).map _
  | date => exact .throw ..
  | time => exact .throw ..
  | objectId => exact (Contents.takes_decodeWord32 _).map _

/-- A length that the datatype does not allow is refused before an octet of contents is taken,
    unless the datatype is one of the two that do not look at it. -/
theorem decodeContents_of_not_allows (hnull : tag ≠ .null) (hboolean : tag ≠ .boolean)
    (h : ¬ tag.Allows length.toNat) : decodeContents tag length r = .error tag.refusal r := by
  cases tag with
  | null => exact absurd rfl hnull
  | boolean => exact absurd rfl hboolean
  | unsignedInt => exact map_eq_error _ (Contents.decodeUnsigned_of_length h)
  | signedInt => exact map_eq_error _ (Contents.decodeSigned_of_length h)
  | enumerated => exact map_eq_error _ (Contents.decodeUnsigned_of_length h)
  | real => exact map_eq_error _ (Contents.decodeWord32_of_length h)
  | double => exact map_eq_error _ (Contents.decodeWord64_of_length h)
  | objectId => exact map_eq_error _ (Contents.decodeWord32_of_length h)
  | characterString => exact map_eq_error _ (Contents.decodeText_of_length h)
  | bitString => exact map_eq_error _ (decodeBitString_of_length h)
  | octetString => rfl
  | date => rfl
  | time => rfl

/-! ## Values that honour their length -/

/-- Between two places stand the tag of a value, with a length that its datatype allows, and as many
    octets of contents as the length stands for. -/
def Honoured (r r' : Reader) : Prop :=
  ∃ tag length r₁ contents, Tag.decode r = .ok (.application tag length) r₁ ∧
    tag.Allows length.toNat ∧ r₁.Consumes contents r' ∧
    contents.length = tag.contentsLength length.toNat

theorem decode_of_tag (htag : Tag.decode r = .ok (.application tag length) r₁) :
    decode r = decodeContents tag length r₁ := by
  unfold decode
  rw [bind_apply, htag]
  rfl

theorem exists_application_of_decode (h : decode r = .ok v r') :
    ∃ tag length r₁, Tag.decode r = .ok (.application tag length) r₁ ∧
      decodeContents tag length r₁ = .ok v r' := by
  obtain ⟨t, r₁, htag, hbehind⟩ := bind_eq_ok.1 h
  obtain ⟨tag, length, rfl⟩ := exists_application_of_decodeBehind hbehind
  exact ⟨tag, length, r₁, htag, hbehind⟩

/-- Whether a value that was read honours its length, by its tag. -/
theorem honoured_iff (htag : Tag.decode r = .ok (.application tag length) r₁)
    (hcontents : decodeContents tag length r₁ = .ok v r') :
    Honoured r r' ↔ (tag = .null → length = 0) ∧ (tag = .boolean → length ≤ 1) := by
  constructor
  · rintro ⟨tag', length', r₂, contents, htag', hallows, -⟩
    rw [htag] at htag'
    cases htag'
    refine ⟨?_, ?_⟩
    · rintro rfl
      exact UInt32.toNat_inj.1 hallows
    · rintro rfl
      exact UInt32.le_iff_toNat_le.2 hallows
  · rintro ⟨hnull, hboolean⟩
    obtain ⟨contents, hlength, hconsumes⟩ := takes_decodeContents tag length hcontents
    by_cases hexempt : tag = .null ∨ tag = .boolean
    · rw [if_pos hexempt] at hlength
      rcases hexempt with rfl | rfl
      · have hzero := hnull rfl
        subst hzero
        exact ⟨.null, 0, r₁, contents, htag, rfl, hconsumes, hlength⟩
      · have hle := UInt32.le_iff_toNat_le.1 (hboolean rfl)
        exact ⟨.boolean, length, r₁, contents, htag, hle, hconsumes, hlength⟩
    · rw [if_neg hexempt] at hlength
      obtain ⟨hne, hne'⟩ := not_or.1 hexempt
      have hallows : tag.Allows length.toNat := by
        by_contra hallows
        rw [decodeContents_of_not_allows hne hne' hallows] at hcontents
        cases hcontents
      have hcounted := hlength.trans (AppTag.contentsLength_of_ne hne' length.toNat).symm
      exact ⟨tag, length, r₁, contents, htag, hallows, hconsumes, hcounted⟩

/-- A value that is read honours its length, unless it is a null that declares contents or a boolean
    that declares more than one octet. Every other length that the datatype does not allow is
    refused, and these two give a value and leave what was declared as its contents. -/
theorem decode_honoured_iff (r : Reader) :
    (∀ v r', decode r = .ok v r' → ∃ tag length r₁,
      Tag.decode r = .ok (.application tag length) r₁ ∧
      (Honoured r r' ↔ (tag = .null → length = 0) ∧ (tag = .boolean → length ≤ 1))) ∧
    ∀ tag length r₁, Tag.decode r = .ok (.application tag length) r₁ →
      ¬ tag.Allows length.toNat →
      (tag ≠ .null → tag ≠ .boolean → decode r = .error tag.refusal r₁) ∧
      (tag = .null → decode r = .ok null r₁) ∧
      (tag = .boolean → decode r = .ok (boolean true) r₁) := by
  refine ⟨fun v r' h => ?_, fun tag length r₁ htag hallows => ?_⟩
  · obtain ⟨tag, length, r₁, htag, hcontents⟩ := exists_application_of_decode h
    exact ⟨tag, length, r₁, htag, honoured_iff htag hcontents⟩
  · rw [decode_of_tag htag]
    refine ⟨fun hnull hboolean => decodeContents_of_not_allows hnull hboolean hallows, ?_, ?_⟩
    · rintro rfl
      rfl
    · rintro rfl
      have hlength : length ≠ 0 := by
        rintro rfl
        exact hallows (Nat.zero_le 1)
      have htrue : (length != 0) = true := bne_iff_ne.2 hlength
      show EStateM.Result.ok (boolean (length != 0)) r₁ = _
      rw [htrue]

/-- A real of four octets honours its length and one of three octets is refused. A null that
    declares an octet of contents leaves it, and it is read as a boolean that declares two. -/
theorem decode_honoured_iff_real :
    Honoured (.ofOctets [0x44, 0x3F, 0x80, 0, 0]) ⟨5, []⟩ ∧
    decode (.ofOctets [0x43, 0, 0, 0]) = .error .invalidLength ⟨1, [0, 0, 0]⟩ ∧
    decode (.ofOctets [0x01, 0x12]) = .ok null ⟨1, [0x12]⟩ ∧
    decode ⟨1, [0x12]⟩ = .ok (boolean true) ⟨2, []⟩ := by
  refine ⟨?_, ?_, ?_, ?_⟩
  · obtain ⟨tag, length, r₁, htag, hiff⟩ :=
      (decode_honoured_iff (.ofOctets [0x44, 0x3F, 0x80, 0, 0])).1 (real 0x3F800000) ⟨5, []⟩ rfl
    cases htag
    exact hiff.2 ⟨by decide, by decide⟩
  · exact ((decode_honoured_iff (.ofOctets [0x43, 0, 0, 0])).2 .real 3 _ rfl
      (by unfold AppTag.Allows; decide)).1 (by decide) (by decide)
  · exact ((decode_honoured_iff (.ofOctets [0x01, 0x12])).2 .null 1 _ rfl
      (by unfold AppTag.Allows; decide)).2.1 rfl
  · exact ((decode_honoured_iff ⟨1, [0x12]⟩).2 .boolean 2 _ rfl
      (by unfold AppTag.Allows; decide)).2.2 rfl

/-- A null that declares an octet of contents does not honour its length. -/
theorem not_forall_decode_honoured :
    ¬ ∀ r v r', decode r = .ok v r' → Honoured r r' := by
  intro hall
  obtain ⟨tag, length, r₁, contents, htag, hallows, -⟩ :=
    hall (.ofOctets [0x01, 0x12]) null ⟨1, [0x12]⟩ rfl
  cases htag
  exact absurd hallows (by unfold AppTag.Allows; decide)

end Value

end Bacnet
