import Bacnet.Proofs.Parameter
import Bacnet.Proofs.Row

set_option autoImplicit false

/-! # Octets taken and octets written

Many octets spell the same form: the number of a tag may stand in an octet of its own, a length may
take more octets than it needs, and an integer may begin with zeros. The written form takes the
least of each, so a reading takes at least as many octets as its result is written with
(`Decode.Covers`). That holds of the tags, of the contents of parameters behind them, of the
parameters themselves, and of rows of whatever it holds of. -/

namespace Bacnet

/-! ## What covers what is written -/

namespace Reader

variable {r r₁ r₂ r' : Reader} {written written' : Octets}

/-- From one place to the other there are at least as many octets as these. -/
def Covers (r : Reader) (written : Octets) (r' : Reader) : Prop :=
  ∃ taken, r.Consumes taken r' ∧ written.length ≤ taken.length

theorem Covers.nil (r : Reader) : r.Covers [] r := ⟨[], .nil r, Nat.le_refl 0⟩

theorem Consumes.covers (h : r.Consumes written r') : r.Covers written r' :=
  ⟨written, h, Nat.le_refl _⟩

theorem Covers.of_le (h : r.Covers written r') (hle : written'.length ≤ written.length) :
    r.Covers written' r' := by
  obtain ⟨taken, htaken, hcovers⟩ := h
  exact ⟨taken, htaken, Nat.le_trans hle hcovers⟩

theorem Covers.trans (h : r.Covers written r₁) (h' : r₁.Covers written' r₂) :
    r.Covers (written ++ written') r₂ := by
  obtain ⟨front, hfront, hle⟩ := h
  obtain ⟨back, hback, hle'⟩ := h'
  refine ⟨front ++ back, hfront.trans hback, ?_⟩
  rw [List.length_append, List.length_append]
  exact Nat.add_le_add hle hle'

/-- An input that is used up is at least as long as what it covers. -/
theorem Covers.of_unread_eq_nil {position : Nat} {input : Octets}
    (h : Reader.Covers ⟨position, input⟩ written r) (hunread : r.unread = []) :
    r = ⟨position + input.length, []⟩ ∧ written.length ≤ input.length := by
  obtain ⟨taken, ⟨hinput, hposition⟩, hle⟩ := h
  obtain ⟨position', unread⟩ := r
  obtain rfl : unread = [] := hunread
  have htaken : input = taken := by
    rw [List.append_nil] at hinput
    exact hinput
  subst htaken
  have hend : position' = position + input.length := hposition
  exact ⟨by rw [hend], hle⟩

end Reader

namespace Decode

variable {α β : Type} {reading : Decode α} {item : Decode α} {r r' : Reader}

/-- Whatever a reading takes is at least as long as its result is written. -/
def Covers (reading : Decode α) (written : α → Octets) : Prop :=
  ∀ ⦃r a r'⦄, reading r = .ok a r' → r.Covers (written a) r'

theorem Exact.covers {written : α → Octets} (h : reading.Exact written) : reading.Covers written :=
  fun _ _ _ hread => Reader.Consumes.covers (h hread)

theorem Covers.map {f : α → β} {written : β → Octets}
    (h : reading.Covers fun a => written (f a)) : (f <$> reading).Covers written := by
  intro r b r' hread
  obtain ⟨a, ha, rfl⟩ := map_eq_ok.1 hread
  exact h ha

/-! ## Rows -/

theorem InTurn.covers {written : α → Octets} (hitem : item.Covers written) {items : List α}
    (h : InTurn item r items r') : r.Covers (items.flatMap written) r' := by
  induction h with
  | nil r => exact .nil r
  | cons head tail ih =>
      rw [List.flatMap_cons]
      exact (hitem head).trans ih

theorem InTurn.exists_of_mem {items : List α} (h : InTurn item r items r') :
    ∀ a ∈ items, ∃ r₁ r₂, item r₁ = .ok a r₂ := by
  induction h with
  | nil r => exact fun a ha => nomatch ha
  | cons head tail ih =>
      intro a ha
      rcases List.mem_cons.1 ha with rfl | ha
      · exact ⟨_, _, head⟩
      · exact ih a ha

end Decode

open Decode

/-! ## Tags -/

theorem AppTag.number_of_ofNumber? {n : UInt8} {tag : AppTag} (h : ofNumber? n = some tag) :
    tag.number = n := by
  obtain ⟨hlt, htag⟩ := List.getElem?_eq_some_iff.1 h
  have hnumber : ∀ i : Fin 13, (all.get i).number.toNat = i := by decide
  apply UInt8.toNat_inj.1
  rw [← htag]
  exact hnumber ⟨n.toNat, hlt⟩

namespace Tag

variable {r r' : Reader}

/-- The octets of a length that does not fit the initial octet. -/
def lengthOctets (length : UInt32) : Octets :=
  if length < 5 then [] else (encodeLength length).octets

theorem length_encodeInitial_eq (number low low' : UInt8) :
    (encodeInitial number low).octets.length = (encodeInitial number low').octets.length := by
  unfold encodeInitial
  split <;> rfl

theorem length_encodeWithLength (number classBit : UInt8) (length : UInt32) (low : UInt8) :
    (encodeWithLength number classBit length).octets.length
      = ((encodeInitial number low).octets ++ lengthOctets length).length := by
  unfold encodeWithLength lengthOctets
  split
  · rw [List.append_nil]
    exact length_encodeInitial_eq ..
  · rw [Encoding.octets_append (fault_encodeInitial ..), List.length_append, List.length_append,
      length_encodeInitial_eq number _ low]

/-- A length takes no more octets than itself or than one that does not fit the initial octet. -/
theorem length_encodeWithLength_le (number classBit : UInt8) {length length' : UInt32}
    (h : length < 5 ∨ length = length') : (encodeWithLength number classBit length).octets.length
      ≤ (encodeWithLength number classBit length').octets.length := by
  rcases h with hlow | rfl
  · rw [length_encodeWithLength number classBit length 0,
      length_encodeWithLength number classBit length' 0, lengthOctets, if_pos hlow, List.append_nil,
      List.length_append]
    exact Nat.le_add_right ..
  · exact Nat.le_refl _

theorem length_encodeLength (length : UInt32) : (encodeLength length).octets.length
    = if length ≤ 253 then 1 else if length ≤ 0xFFFF then 3 else 5 := by
  unfold encodeLength
  split
  · rfl
  · split <;> simp

theorem length_lengthOctets_le (length : UInt32) :
    (lengthOctets length).length ≤ (encodeLength length).octets.length := by
  unfold lengthOctets
  split
  · exact Nat.zero_le _
  · exact Nat.le_refl _

theorem covers_decodeLength (low : UInt8) : (decodeLength low).Covers lengthOctets := by
  intro r length r' h
  unfold decodeLength at h
  by_cases hlow : low < extendedLength
  · rw [if_pos hlow] at h
    cases h
    have hshort : low.toUInt32 < 5 := by
      rw [UInt32.lt_iff_toNat_lt, UInt8.toNat_toUInt32]
      exact UInt8.lt_iff_toNat_lt.1 hlow
    rw [lengthOctets, if_pos hshort]
    exact .nil r
  · rw [if_neg hlow] at h
    obtain ⟨-, h⟩ := of_guard_eq_ok h
    obtain ⟨first, r₁, hfirst, h⟩ := bind_eq_ok.1 h
    have hone := exact_octet.covers hfirst
    have hle := length_lengthOctets_le length
    rw [length_encodeLength] at hle
    split at h
    · obtain ⟨word, r₂, hword, h⟩ := bind_eq_ok.1 h
      cases h
      have hlong : word.toUInt32 ≤ 0xFFFF := by
        rw [UInt32.le_iff_toNat_le, UInt16.toNat_toUInt32]
        exact Nat.le_of_lt_succ word.toNat_lt
      rw [if_pos hlong] at hle
      refine (hone.trans (exact_word16.covers hword)).of_le (Nat.le_trans hle ?_)
      split <;> simp
    · refine (hone.trans (exact_word32.covers h)).of_le (Nat.le_trans hle ?_)
      split
      · simp
      · split <;> simp
    · next hword hdouble =>
      cases h
      have hshort : first.toUInt32 ≤ 253 := by
        have hlt := first.toNat_lt
        have hne : first.toNat ≠ 254 := fun h => hword (UInt8.toNat_inj.1 h)
        have hne' : first.toNat ≠ 255 := fun h => hdouble (UInt8.toNat_inj.1 h)
        rw [UInt32.le_iff_toNat_le, UInt8.toNat_toUInt32]
        show first.toNat ≤ 253
        omega
      rw [if_pos hshort] at hle
      exact hone.of_le hle

/-- A number takes an octet of its own at least when it is written with one. -/
theorem exists_number_of_withInitial {β : Type} {next : UInt8 → UInt8 → Decode β} {b : β}
    (h : withInitial next r = .ok b r') :
    ∃ initial number r₁, next initial number r₁ = .ok b r' ∧
      ∀ low, r.Covers (encodeInitial number low).octets r₁ := by
  obtain ⟨initial, r₁, hinitial, h⟩ := bind_eq_ok.1 h
  have hone := exact_octet.covers hinitial
  by_cases hnumber : initial >>> 4 = extendedNumber
  · rw [if_pos hnumber] at h
    obtain ⟨number, r₂, htwo, h⟩ := bind_eq_ok.1 h
    refine ⟨initial, number, r₂, h, fun low => ?_⟩
    exact (hone.trans (exact_octet.covers htwo)).of_le (length_encodeInitial number low).2
  · rw [if_neg hnumber] at h
    refine ⟨initial, initial >>> 4, r₁, h, fun low => hone.of_le ?_⟩
    have hsmall : initial >>> 4 < extendedNumber := by
      have hlt := initial.toNat_lt
      have hne : (initial >>> 4).toNat ≠ 15 := fun h => hnumber (UInt8.toNat_inj.1 h)
      have hshift : (initial >>> 4).toNat = initial.toNat / 16 := by
        rw [UInt8.toNat_shiftRight]
        exact Nat.shiftRight_eq_div_pow ..
      rw [UInt8.lt_iff_toNat_lt]
      show (initial >>> 4).toNat < 15
      omega
    rw [encodeInitial, if_pos hsmall]
    exact Nat.le_refl 1

/-- A tag is never shorter than it is written. -/
theorem covers_decode : decode.Covers fun t => t.encode.octets := by
  intro r t r' h
  unfold decode at h
  obtain ⟨initial, number, r₁, h, hinitial⟩ := exists_number_of_withInitial h
  have hlength : ∀ {classBit length r₂}, decodeLength (initial &&& 0x07) r₁ = .ok length r₂ →
      r.Covers (encodeWithLength number classBit length).octets r₂ := by
    intro classBit length r₂ hread
    refine ((hinitial 0).trans (covers_decodeLength _ hread)).of_le ?_
    exact Nat.le_of_eq (length_encodeWithLength ..)
  by_cases hclass : initial &&& contextClass = 0
  · rw [if_pos hclass] at h
    cases htag : AppTag.ofNumber? number with
    | none =>
        simp only [htag] at h
        cases h
    | some tag =>
        simp only [htag] at h
        obtain ⟨length, r₂, hread, h⟩ := bind_eq_ok.1 h
        cases h
        show r.Covers (encodeWithLength tag.number 0 length).octets r'
        rw [AppTag.number_of_ofNumber? htag]
        exact hlength hread
  rw [if_neg hclass] at h
  by_cases hopening : initial &&& 0x07 = openingBits
  · rw [if_pos hopening] at h
    cases h
    exact hinitial _
  rw [if_neg hopening] at h
  by_cases hclosing : initial &&& 0x07 = closingBits
  · rw [if_pos hclosing] at h
    cases h
    exact hinitial _
  · rw [if_neg hclosing] at h
    obtain ⟨length, r₂, hread, h⟩ := bind_eq_ok.1 h
    cases h
    exact hlength hread

theorem covers_expect (t : Tag) : (expect t).Covers fun _ => t.encode.octets := by
  intro r u r' h
  unfold expect at h
  obtain ⟨t', r₁, htag, h⟩ := bind_eq_ok.1 h
  by_cases hne : t' ≠ t
  · rw [if_pos hne] at h
    cases h
  · rw [if_neg hne] at h
    cases h
    obtain rfl : t' = t := Decidable.not_not.1 hne
    exact covers_decode htag

theorem exists_tag_of_expectContext {number : UInt8} {n : Nat}
    (h : expectContext number r = .ok n r') :
    ∃ length : UInt32, n = length.toNat ∧ decode r = .ok (.context number length) r' := by
  unfold expectContext at h
  obtain ⟨t, r₁, htag, h⟩ := bind_eq_ok.1 h
  cases t with
  | context number' length =>
      by_cases hnumber : number' = number
      · simp only [if_pos hnumber] at h
        cases h
        exact ⟨length, rfl, hnumber ▸ htag⟩
      · simp only [if_neg hnumber] at h
        cases h
  | application tag length => cases h
  | opening number' => cases h
  | closing number' => cases h

end Tag

/-! ## Contents behind a tag -/

namespace Contents

variable {α : Type} {r r' : Reader}

theorem unsignedWidth_le {width : Nat} {n : UInt32} (hpos : 1 ≤ width)
    (h : n.toNat < 256 ^ width) : unsignedWidth n ≤ width := by
  have hwidth : width = 1 ∨ width = 2 ∨ width = 3 ∨ 4 ≤ width := by omega
  unfold unsignedWidth
  simp only [UInt32.lt_iff_toNat_lt, UInt32.reduceToNat]
  rcases hwidth with rfl | rfl | rfl | hwidth <;> split_ifs <;> omega

/-- Zeros in front of an integer are not written. -/
theorem covers_decodeUnsigned (length : Nat) : (decodeUnsigned length).Covers ofUnsigned := by
  intro r n r' h
  unfold decodeUnsigned at h
  obtain ⟨hlength, h⟩ := of_guard_eq_ok h
  obtain ⟨octets, r₁, hoctets, h⟩ := bind_eq_ok.1 h
  cases h
  refine ((exact_octets length).covers hoctets).of_le ?_
  rw [length_ofUnsigned, id_eq]
  refine unsignedWidth_le (by rw [length_of_octets hoctets]; omega) ?_
  exact Nat.lt_of_le_of_lt (Nat.mod_le ..) (Octets.toNat_lt octets)

theorem covers_decodeWord32 (length : Nat) : (decodeWord32 length).Covers Octets.ofUInt32 := by
  intro r word r' h
  unfold decodeWord32 at h
  obtain ⟨-, h⟩ := of_guard_eq_ok h
  exact exact_word32.covers h

theorem length_ofUnsigned_lt_five (n : UInt32) : (ofUnsigned n).length < 5 := by
  obtain ⟨-, hle, -⟩ := unsignedWidth_bounds n
  rw [length_ofUnsigned]
  exact Nat.lt_succ_of_le hle

/-- Contents behind a tag that was read, if they are few or as many as it declares. -/
theorem covers_tagged {tag : UInt32 → Tag} {number classBit : UInt8} {length : UInt32}
    {r₁ : Reader} {contents : Octets}
    (hwritten : ∀ length, (tag length).encode = Tag.encodeWithLength number classBit length)
    (htag : Tag.decode r = .ok (tag length) r₁) (hcontents : r₁.Covers contents r')
    (h : contents.length < 5 ∨ contents.length = length.toNat) :
    r.Covers (tagged tag contents).octets r' := by
  have hlength : UInt32.ofNat contents.length < 5 ∨ UInt32.ofNat contents.length = length := by
    rcases h with hshort | hdeclared
    · left
      rw [UInt32.lt_iff_toNat_lt, UInt32.toNat_ofNat_of_lt' (Nat.lt_trans hshort (by decide))]
      exact hshort
    · right
      rw [hdeclared, UInt32.ofNat_toNat]
  have hread : r.Covers (tag length).encode.octets r₁ := Tag.covers_decode htag
  rw [octets_tagged]
  refine (hread.of_le ?_).trans hcontents
  rw [hwritten, hwritten]
  exact Tag.length_encodeWithLength_le number classBit hlength

/-- Contents of few octets behind a context tag, whatever length the tag that was read declares. -/
theorem covers_context {reading : Nat → Decode α} {contents : α → Octets} (number : UInt8)
    (hshort : ∀ a, (contents a).length < 5) (h : ∀ length, (reading length).Covers contents) :
    (do reading (← Tag.expectContext number)).Covers
      fun a => (tagged (.context number) (contents a)).octets := by
  intro r a r' hread
  obtain ⟨n, r₁, hexpect, hread⟩ := bind_eq_ok.1 hread
  obtain ⟨length, -, htag⟩ := Tag.exists_tag_of_expectContext hexpect
  exact covers_tagged (fun _ => rfl) htag (h n hread) (.inl (hshort a))

/-- A text is written with the octets it was read from. -/
theorem eq_of_decodeText {length : Nat} {text : String} (h : decodeText length r = .ok text r') :
    (utf8Charset :: Octets.ofString text).length = length ∧
      r.Consumes (utf8Charset :: Octets.ofString text) r' := by
  unfold decodeText at h
  obtain ⟨octets, r₁, hoctets, h⟩ := bind_eq_ok.1 h
  have hlength := length_of_octets hoctets
  have hconsumes := (exact_octets length).consumes hoctets
  cases octets with
  | nil => cases h
  | cons charset octets =>
      obtain ⟨hcharset, h⟩ := of_guard_eq_ok h
      obtain rfl : charset = utf8Charset := Decidable.not_not.1 hcharset
      cases htext : Octets.toString? octets with
      | none =>
          simp only [htext] at h
          cases h
      | some text' =>
          simp only [htext] at h
          cases h
          rw [Octets.ofString_toString? htext]
          exact ⟨hlength, hconsumes⟩

end Contents

/-! ## Parameters -/

namespace Parameter

variable {r r' : Reader}

theorem covers_decodeUnsigned (number : UInt8) :
    (decodeUnsigned number).Covers fun n => (encodeUnsigned number n).octets :=
  Contents.covers_context number Contents.length_ofUnsigned_lt_five Contents.covers_decodeUnsigned

theorem covers_decodeObjectId (number : UInt8) :
    (decodeObjectId number).Covers fun id => (encodeObjectId number id).octets := by
  intro r id r' h
  unfold decodeObjectId at h
  obtain ⟨length, r₁, hexpect, h⟩ := bind_eq_ok.1 h
  obtain ⟨word, r₂, hword, h⟩ := bind_eq_ok.1 h
  cases h
  have hread := bind_eq_ok.2 ⟨length, r₁, hexpect, hword⟩
  exact Contents.covers_context number (fun word => by simp) Contents.covers_decodeWord32 hread

/-- A parameter that is missing is not written. -/
theorem covers_decodeOptional (number : UInt8) :
    (decodeOptional number).Covers fun n => (encodeOptional number n).octets := by
  have hsome : (some <$> decodeUnsigned number).Covers
      fun n => (encodeOptional number n).octets := Covers.map (covers_decodeUnsigned number)
  intro r n r' h
  unfold decodeOptional at h
  obtain ⟨ended, r₁, hended, hbehind⟩ := bind_eq_ok.1 h
  obtain ⟨rfl, -⟩ := eq_of_atEnd hended
  cases ended with
  | true =>
      cases hbehind
      exact .nil r'
  | false =>
      obtain ⟨t, r₂, hpeek, hparameter⟩ := bind_eq_ok.1 hbehind
      obtain ⟨rfl, -⟩ := eq_of_peek hpeek
      by_cases ht : t.isContext number
      · rw [if_pos ht] at hparameter
        exact hsome hparameter
      · rw [if_neg ht] at hparameter
        cases hparameter
        exact .nil r'

/-- A text that was read fits the tag that it is written with. -/
theorem covers_text {number : UInt8} {text : String}
    (h : (Tag.expectContext number >>= Contents.decodeText) r = .ok text r') :
    (Octets.ofString text).length + 1 < 0x100000000 ∧
      r.Covers (encodeText number text).octets r' := by
  obtain ⟨n, r₁, hexpect, htext⟩ := bind_eq_ok.1 h
  obtain ⟨length, rfl, htag⟩ := Tag.exists_tag_of_expectContext hexpect
  obtain ⟨hlength, hconsumes⟩ := Contents.eq_of_decodeText htext
  have hfits : (Octets.ofString text).length + 1 < 0x100000000 := by
    rw [← List.length_cons, hlength]
    exact length.toNat_lt
  refine ⟨hfits, ?_⟩
  rw [octets_encodeText hfits]
  exact Contents.covers_tagged (fun _ => rfl) htag hconsumes.covers (.inr hlength)

end Parameter

end Bacnet
