import Bacnet.Apdu
import Bacnet.Proofs.Contents

set_option autoImplicit false

/-! # APDU headers read back

The first octet of an APDU keeps its type and its flags apart, so every header is read back as it
was written, and the type that the octet names is the type of the header that wrote it. The other
way round, the first two octets of a confirmed request announce its header
(`exists_announces_of_decode`), and only their reserved bits are lost when it is written again
(`round_trip_up_to_reserved`). -/

namespace Bacnet

/-! ## The first octet -/

namespace PduType

theorem number_lt (t : PduType) : t.number < 16 := by cases t <;> decide

theorem firstOctet_shiftRight (t : PduType) (flags : UInt8) :
    t.firstOctet flags >>> 4 = t.number :=
  Octets.halves_shiftRight t.number_lt (Octets.and_lt_sixteen (by decide) flags)

@[simp] theorem ofFirstOctet?_firstOctet (t : PduType) (flags : UInt8) :
    ofFirstOctet? (t.firstOctet flags) = some t := by
  rw [ofFirstOctet?, firstOctet_shiftRight]
  cases t <;> rfl

theorem reads_decodeFlags (t : PduType) (flags : UInt8) (rest : Octets) :
    t.decodeFlags.Reads [t.firstOctet flags] (flags &&& 15) rest := by
  unfold decodeFlags
  refine (Decode.reads_octet _ rest).bind_last ?_
  rw [if_neg (by simp [firstOctet_shiftRight]), firstOctet,
    Octets.halves_and t.number_lt (Octets.and_lt_sixteen (by decide) flags)]
  exact .pure _ rest

/-- Flags that were read stood behind the number of their type. -/
theorem exists_octet_of_decodeFlags {t : PduType} {flags : UInt8} {r r' : Reader}
    (h : t.decodeFlags r = .ok flags r') : ∃ first, r.unread = first :: r'.unread ∧
      r'.position = r.position + 1 ∧ first >>> 4 = t.number ∧ first &&& 15 = flags := by
  unfold decodeFlags at h
  obtain ⟨first, r₁, hfirst, h⟩ := Decode.bind_eq_ok.1 h
  obtain ⟨hnumber, h⟩ := Decode.of_guard_eq_ok h
  cases h
  obtain ⟨hunread, hposition⟩ := Decode.exact_octet hfirst
  exact ⟨first, hunread, hposition, not_not.1 hnumber, rfl⟩

theorem eq_of_decodeFlags_firstOctet {t t' : PduType} {flags flags' : UInt8} {rest : Octets}
    {position : Nat} {r : Reader}
    (h : t.decodeFlags ⟨position, t'.firstOctet flags :: rest⟩ = .ok flags' r) : t' = t := by
  obtain ⟨first, hunread, -, hnumber, -⟩ := exists_octet_of_decodeFlags h
  obtain ⟨rfl, -⟩ := List.cons.inj hunread
  rw [firstOctet_shiftRight] at hnumber
  cases t <;> cases t' <;> first | rfl | exact absurd hnumber (by decide)

theorem decodeFlags_cons {t : PduType} {first flags : UInt8} {tail : Octets} {position : Nat}
    {r : Reader} (h : t.decodeFlags ⟨position, first :: tail⟩ = .ok flags r) :
    r = ⟨position + 1, tail⟩ ∧
      ∀ tail', t.decodeFlags ⟨position, first :: tail'⟩ = .ok flags ⟨position + 1, tail'⟩ := by
  unfold decodeFlags at h ⊢
  obtain ⟨octet, r₁, hoctet, h⟩ := Decode.bind_eq_ok.1 h
  cases hoctet
  obtain ⟨hnumber, h⟩ := Decode.of_guard_eq_ok h
  cases h
  refine ⟨rfl, fun tail' => Decode.bind_eq_ok.2 ⟨first, _, rfl, ?_⟩⟩
  rw [if_neg hnumber]
  rfl

end PduType

/-! ## Confirmed requests -/

namespace ConfirmedHeader

theorem flags_and_fifteen (h : ConfirmedHeader) : h.flags &&& 15 = h.flags := by
  unfold flags
  cases h.segmentedResponseAccepted <;> rcases h.segment with _ | ⟨_, _, _ | _⟩ <;>
    simp only [Bool.false_eq_true, ↓reduceIte] <;> decide

theorem flags_segmentedResponse (h : ConfirmedHeader) :
    (h.flags &&& segmentedResponseFlag != 0) = h.segmentedResponseAccepted := by
  unfold flags
  cases h.segmentedResponseAccepted <;> rcases h.segment with _ | ⟨_, _, _ | _⟩ <;>
    simp only [Bool.false_eq_true, ↓reduceIte] <;> decide

theorem flags_segmented (h : ConfirmedHeader) :
    (h.flags &&& segmentedFlag == 0) = h.segment.isNone := by
  unfold flags
  cases h.segmentedResponseAccepted <;> rcases h.segment with _ | ⟨_, _, _ | _⟩ <;>
    simp only [Bool.false_eq_true, ↓reduceIte, Option.isNone_none, Option.isNone_some] <;> decide

theorem flags_moreFollows {h : ConfirmedHeader} {s : Segment} (hs : h.segment = some s) :
    (h.flags &&& moreFollowsFlag != 0) = s.moreFollows := by
  unfold flags
  rw [hs]
  cases h.segmentedResponseAccepted <;> rcases s with ⟨_, _, _ | _⟩ <;>
    simp only [Bool.false_eq_true, ↓reduceIte] <;> decide

/-- The octets of the fields of a segment. -/
def segmentOctets : Option Segment → Octets
  | none => []
  | some segment => [segment.sequenceNumber, segment.windowSize]

theorem reads_decodeSegment (h : ConfirmedHeader) (rest : Octets) :
    (decodeSegment h.flags).Reads (segmentOctets h.segment) h.segment rest := by
  have hflag := flags_segmented h
  unfold decodeSegment
  cases hs : h.segment with
  | none =>
      rw [hs] at hflag
      rw [if_pos (beq_iff_eq.1 hflag)]
      exact .pure none rest
  | some s =>
      rw [hs] at hflag
      rw [if_neg (by simpa using hflag), flags_moreFollows hs]
      refine (Decode.reads_octet s.sequenceNumber _).bind ?_
      exact (Decode.reads_octet s.windowSize rest).bind_pure
        fun windowSize => some (Segment.mk s.sequenceNumber windowSize s.moreFollows)

@[simp] theorem fault_encode (h : ConfirmedHeader) : h.encode.fault = none := by
  unfold encode
  cases h.segment <;> simp

theorem octets_encode (h : ConfirmedHeader) :
    h.encode.octets = PduType.confirmedRequest.firstOctet h.flags ::
      ((h.maxSegments &&& 7) <<< 4 ||| h.maxApdu &&& 15) :: h.invokeId ::
      (segmentOctets h.segment ++ [h.service]) := by
  unfold encode
  cases h.segment <;> simp [segmentOctets]

/-- A header is read back with its sizes cut to their bits. -/
theorem reads_decode (h : ConfirmedHeader) (rest : Octets) :
    decode.Reads h.encode.octets
      { h with maxSegments := h.maxSegments &&& 7, maxApdu := h.maxApdu &&& 15 } rest := by
  have hhigh : h.maxSegments &&& 7 < 16 := Octets.and_lt_sixteen (by decide) _
  have hlow : h.maxApdu &&& 15 < 16 := Octets.and_lt_sixteen (by decide) _
  unfold decode
  rw [octets_encode]
  refine (PduType.reads_decodeFlags .confirmedRequest h.flags _).bind ?_
  refine (Decode.reads_octet _ _).bind ?_
  refine (Decode.reads_octet _ _).bind ?_
  rw [flags_and_fifteen, flags_segmentedResponse, Octets.halves_shiftRight hhigh hlow,
    Octets.halves_and hhigh hlow]
  refine (reads_decodeSegment h _).bind ?_
  have hseven : h.maxSegments &&& 7 &&& 7 = h.maxSegments &&& 7 := by
    rw [UInt8.and_assoc, UInt8.and_self]
  rw [hseven]
  exact (Decode.reads_octet h.service rest).bind_pure _

/-- What the first two octets of a header say of it. -/
structure Announces (first sizes : UInt8) (h : ConfirmedHeader) : Prop where
  type : first >>> 4 = PduType.confirmedRequest.number
  accepted : h.segmentedResponseAccepted = (first &&& segmentedResponseFlag != 0)
  segment : h.segment.map (·.moreFollows) =
    if first &&& segmentedFlag = 0 then none else some (first &&& moreFollowsFlag != 0)
  maxSegments : h.maxSegments = sizes >>> 4 &&& 7
  maxApdu : h.maxApdu = sizes &&& 15

theorem consumes_of_decodeSegment {flags : UInt8} {segment : Option Segment} {r r' : Reader}
    (h : decodeSegment flags r = .ok segment r') : r.Consumes (segmentOctets segment) r' ∧
      segment.map (·.moreFollows) =
        if flags &&& segmentedFlag = 0 then none else some (flags &&& moreFollowsFlag != 0) := by
  unfold decodeSegment at h
  by_cases hflag : flags &&& segmentedFlag = 0
  · rw [if_pos hflag] at h
    cases h
    exact ⟨.nil r, (if_pos hflag).symm⟩
  · rw [if_neg hflag] at h
    obtain ⟨sequenceNumber, r₁, hnumber, h⟩ := Decode.bind_eq_ok.1 h
    obtain ⟨windowSize, r₂, hwindow, h⟩ := Decode.bind_eq_ok.1 h
    cases h
    have hoctets := (Decode.exact_octet.consumes hnumber).trans
      (Decode.exact_octet.consumes hwindow)
    exact ⟨hoctets, (if_neg hflag).symm⟩

/-- A header that was read stood there, with two octets that announce it in front. -/
theorem exists_announces_of_decode {h : ConfirmedHeader} {r r' : Reader}
    (hdecode : decode r = .ok h r') : ∃ first sizes, Announces first sizes h ∧
      r.Consumes (first :: sizes :: h.invokeId :: (segmentOctets h.segment ++ [h.service])) r' := by
  unfold decode at hdecode
  obtain ⟨flags, r₁, hflags, hdecode⟩ := Decode.bind_eq_ok.1 hdecode
  obtain ⟨sizes, r₂, hsizes, hdecode⟩ := Decode.bind_eq_ok.1 hdecode
  obtain ⟨invokeId, r₃, hinvokeId, hdecode⟩ := Decode.bind_eq_ok.1 hdecode
  obtain ⟨segment, r₄, hfields, hdecode⟩ := Decode.bind_eq_ok.1 hdecode
  obtain ⟨service, r₅, hservice, hdecode⟩ := Decode.bind_eq_ok.1 hdecode
  cases hdecode
  obtain ⟨first, hunread, hposition, hnumber, rfl⟩ := PduType.exists_octet_of_decodeFlags hflags
  obtain ⟨hsegment, hmore⟩ := consumes_of_decodeSegment hfields
  have hmask : ∀ mask, 15 &&& mask = mask → first &&& 15 &&& mask = first &&& mask := by
    intro mask hmask
    rw [UInt8.and_assoc, hmask]
  have hannounces : Announces first sizes
      ⟨segment, first &&& 15 &&& segmentedResponseFlag != 0, sizes >>> 4 &&& 7, sizes &&& 15,
        invokeId, service⟩ := {
    type := hnumber
    accepted := by rw [hmask segmentedResponseFlag (by decide)]
    segment := by rw [hmore, hmask segmentedFlag (by decide), hmask moreFollowsFlag (by decide)]
    maxSegments := rfl
    maxApdu := rfl }
  have hfront : r.Consumes [first] r₁ := ⟨hunread, hposition⟩
  have hsizes := hfront.trans (Decode.exact_octet.consumes hsizes)
  have hinvokeId := hsizes.trans (Decode.exact_octet.consumes hinvokeId)
  exact ⟨first, sizes, hannounces,
    hinvokeId.trans (hsegment.trans (Decode.exact_octet.consumes hservice))⟩

/-- What stood in front of the body of a request in one segment. -/
theorem exists_octets_of_decode {h : ConfirmedHeader} {r r' : Reader}
    (hdecode : decode r = .ok h r') (hsegment : h.segment = none) :
    ∃ first sizes, r.unread = first :: sizes :: h.invokeId :: h.service :: r'.unread ∧
      r'.position = r.position + 4 ∧ first >>> 4 = PduType.confirmedRequest.number ∧
      first &&& segmentedFlag = 0 := by
  obtain ⟨first, sizes, hannounces, hunread, hposition⟩ := exists_announces_of_decode hdecode
  have hmore := hannounces.segment
  rw [hsegment] at hunread hposition hmore
  refine ⟨first, sizes, hunread, hposition, hannounces.type, ?_⟩
  by_contra hflag
  rw [if_neg hflag] at hmore
  cases hmore

/-- The sizes that a header names stand in its second octet, and nothing else does. -/
theorem decode_cons {h : ConfirmedHeader} {first sizes : UInt8} {rest : Octets} {position : Nat}
    {r : Reader} (hdecode : decode ⟨position, first :: sizes :: rest⟩ = .ok h r) (sizes' : UInt8) :
    decode ⟨position, first :: sizes' :: rest⟩ = .ok
      { h with maxSegments := (sizes' >>> 4) &&& 7, maxApdu := sizes' &&& 15 } r := by
  unfold decode at hdecode ⊢
  obtain ⟨flags, r₁, hflags, hdecode⟩ := Decode.bind_eq_ok.1 hdecode
  obtain ⟨rfl, hflags'⟩ := PduType.decodeFlags_cons hflags
  obtain ⟨_, r₂, hsizes, hdecode⟩ := Decode.bind_eq_ok.1 hdecode
  cases hsizes
  obtain ⟨invokeId, r₃, hinvokeId, hdecode⟩ := Decode.bind_eq_ok.1 hdecode
  obtain ⟨segment, r₄, hsegment, hdecode⟩ := Decode.bind_eq_ok.1 hdecode
  obtain ⟨service, r₅, hservice, hdecode⟩ := Decode.bind_eq_ok.1 hdecode
  cases hdecode
  refine Decode.bind_eq_ok.2 ⟨flags, _, hflags' (sizes' :: rest), ?_⟩
  refine Decode.bind_eq_ok.2 ⟨sizes', _, rfl, ?_⟩
  refine Decode.bind_eq_ok.2 ⟨invokeId, _, hinvokeId, ?_⟩
  refine Decode.bind_eq_ok.2 ⟨segment, _, hsegment, ?_⟩
  exact Decode.bind_eq_ok.2 ⟨service, _, hservice, rfl⟩

/-! ### Bits that a header does not keep -/

/-- The bits of a first octet that no header keeps: the lowest, and the one that says that segments
    follow if there are no segments. -/
def droppedBits (first : UInt8) : UInt8 :=
  1 ||| if first &&& segmentedFlag = 0 then moreFollowsFlag else 0

/-- The octets of a header, with those bits cleared that no header keeps. Of the octet with the
    sizes that is the highest bit. -/
def clearReserved : Octets → Octets
  | first :: sizes :: fields => (first &&& ~~~droppedBits first) :: (sizes &&& ~~~0x80) :: fields
  | octets => octets

namespace Announces

variable {first sizes : UInt8} {h : ConfirmedHeader} (hannounces : Announces first sizes h)

include hannounces

theorem firstOctet_flags :
    PduType.confirmedRequest.firstOctet h.flags = first &&& ~~~droppedBits first := by
  have hflags : h.flags = (if h.segmentedResponseAccepted then segmentedResponseFlag else 0) |||
      match h.segment.map (·.moreFollows) with
      | none => 0
      | some moreFollows => segmentedFlag ||| if moreFollows then moreFollowsFlag else 0 := by
    unfold flags
    cases h.segment <;> rfl
  have hfirst : first.toNat < 16 := by
    have htype := congrArg UInt8.toNat hannounces.type
    rw [UInt8.toNat_shiftRight] at htype
    have hshift : first.toNat >>> 4 = 0 := htype
    rw [Nat.shiftRight_eq_div_pow] at hshift
    omega
  rw [hflags, hannounces.accepted, hannounces.segment]
  -- The number of the type is zero, so there are only sixteen first octets.
  rw [← UInt8.ofNat_toNat (x := first)]
  generalize first.toNat = n at hfirst
  revert n
  decide

theorem sizes_octet : (h.maxSegments &&& 7) <<< 4 ||| h.maxApdu &&& 15 = sizes &&& ~~~0x80 := by
  rw [hannounces.maxSegments, hannounces.maxApdu, UInt8.and_assoc, UInt8.and_self, UInt8.and_assoc,
    UInt8.and_self]
  exact Octets.halves_of_octet sizes

theorem octets_encode : h.encode.octets =
    clearReserved (first :: sizes :: h.invokeId :: (segmentOctets h.segment ++ [h.service])) := by
  rw [ConfirmedHeader.octets_encode, hannounces.firstOctet_flags, hannounces.sizes_octet,
    clearReserved]

theorem sizes_le : h.maxSegments ≤ 7 ∧ h.maxApdu ≤ 15 := by
  rw [hannounces.maxSegments, hannounces.maxApdu, UInt8.le_iff_toNat_le, UInt8.le_iff_toNat_le,
    UInt8.toNat_and, UInt8.toNat_and]
  exact ⟨Nat.and_le_right, Nat.and_le_right⟩

end Announces

/-- A header with sizes that fit their bits is read back as it was written. -/
theorem reads_decode_of_le {h : ConfirmedHeader} (hsegments : h.maxSegments ≤ 7)
    (hapdu : h.maxApdu ≤ 15) (rest : Octets) : decode.Reads h.encode.octets h rest := by
  have hread := h.reads_decode rest
  have hseven : h.maxSegments &&& 7 = h.maxSegments := by
    have hle : h.maxSegments.toNat ≤ 7 := UInt8.le_iff_toNat_le.1 hsegments
    apply UInt8.toNat_inj.1
    rw [UInt8.toNat_and]
    show h.maxSegments.toNat &&& (2 ^ 3 - 1) = _
    rw [Nat.and_two_pow_sub_one_eq_mod]
    omega
  have hfifteen : h.maxApdu &&& 15 = h.maxApdu :=
    Octets.and_fifteen_of_lt (UInt8.lt_of_le_of_lt hapdu (by decide))
  rwa [hseven, hfifteen] at hread

/-- A header with sizes that fit their bits is written, and read back from its octets in front of
    any others. The other way round, a header that is read has such sizes, and is written as the
    octets that it was read from with the reserved bits cleared and nothing else changed. -/
theorem round_trip_up_to_reserved :
    (∀ h : ConfirmedHeader, h.maxSegments ≤ 7 → h.maxApdu ≤ 15 → ∃ octets : Octets,
      (∀ capacity, octets.length ≤ capacity → h.encode.within capacity = .ok octets) ∧
      ∀ suffix, decode (.ofOctets (octets ++ suffix)) = .ok h ⟨octets.length, suffix⟩) ∧
    ∀ (input : Octets) (h : ConfirmedHeader) (r : Reader), decode (.ofOctets input) = .ok h r →
      r.position ≤ input.length ∧ r.unread = input.drop r.position ∧
      h.maxSegments ≤ 7 ∧ h.maxApdu ≤ 15 ∧
      ∀ capacity, r.position ≤ capacity →
        h.encode.within capacity = .ok (clearReserved (input.take r.position)) := by
  refine ⟨?_, ?_⟩
  · intro h hsegments hapdu
    refine ⟨h.encode.octets, ?_, ?_⟩
    · intro capacity hroom
      exact Encoding.within_eq_ok_iff.2 ⟨h.fault_encode, hroom, rfl⟩
    · intro suffix
      have hread := reads_decode_of_le hsegments hapdu suffix 0
      rwa [Nat.zero_add] at hread
  · intro input h r hdecode
    obtain ⟨first, sizes, hannounces, hconsumes⟩ := exists_announces_of_decode hdecode
    obtain ⟨htake, hdrop, hlength, hle⟩ := hconsumes.eq_take
    obtain ⟨hsegments, hapdu⟩ := hannounces.sizes_le
    refine ⟨hle, hdrop, hsegments, hapdu, fun capacity hroom => ?_⟩
    rw [← htake, ← hannounces.octets_encode]
    have hsize : h.encode.size = r.position := by
      rw [Encoding.size, hannounces.octets_encode, hlength]
      rfl
    exact Encoding.within_eq_ok_iff.2 ⟨h.fault_encode, hsize ▸ hroom, rfl⟩

/-- A header of one segment of several with all reserved bits, and one of a whole request that says
    that segments follow. -/
theorem round_trip_up_to_reserved_segment :
    let segment : ConfirmedHeader := ⟨some ⟨5, 4, true⟩, false, 7, 15, 9, 12⟩
    let whole : ConfirmedHeader := ⟨none, true, 7, 5, 9, 12⟩
    (∃ octets : Octets, segment.encode.within 6 = .ok octets ∧
      decode (.ofOctets (octets ++ [0x0C])) = .ok segment ⟨octets.length, [0x0C]⟩) ∧
    decode (.ofOctets [0x0D, 0xFF, 9, 5, 4, 12]) = .ok segment ⟨6, []⟩ ∧
    segment.encode.within 6 = .ok [0x0C, 0x7F, 9, 5, 4, 12] ∧
    decode (.ofOctets [0x07, 0xF5, 9, 12, 0x0C]) = .ok whole ⟨4, [0x0C]⟩ ∧
    whole.encode.within 4 = .ok [0x02, 0x75, 9, 12] := by
  intro segment whole
  have hsegment : decode (.ofOctets [0x0D, 0xFF, 9, 5, 4, 12]) = .ok segment ⟨6, []⟩ := rfl
  have hwhole : decode (.ofOctets [0x07, 0xF5, 9, 12, 0x0C]) = .ok whole ⟨4, [0x0C]⟩ := rfl
  obtain ⟨hforth, hback⟩ := round_trip_up_to_reserved
  obtain ⟨octets, hwritten, hread⟩ := hforth segment (by decide) (by decide)
  obtain ⟨-, -, -, -, hwritten'⟩ := hback _ segment _ hsegment
  obtain ⟨-, -, -, -, hwritten''⟩ := hback _ whole _ hwhole
  have hlength : octets.length ≤ 6 := by
    obtain ⟨-, -, rfl⟩ := Encoding.within_eq_ok_iff.1 (hwritten octets.length (Nat.le_refl _))
    decide
  exact ⟨⟨octets, hwritten 6 hlength, hread [0x0C]⟩, hsegment, hwritten' 6 (Nat.le_refl 6), hwhole,
    hwritten'' 4 (Nat.le_refl 4)⟩

/-- The size of answer that a code stands for; the reserved codes stand for the least. -/
theorem maxApduOctets_eq (h : ConfirmedHeader) :
    h.maxApduOctets = [50, 128, 206, 480, 1024, 1476].getD h.maxApdu.toNat 50 := by
  have hall : ∀ n < 256, ((MaxApdu.ofCode? (UInt8.ofNat n).toUInt32).getD .upTo50).octets
      = [50, 128, 206, 480, 1024, 1476].getD (UInt8.ofNat n).toNat 50 := by
    decide +kernel
  have h' := hall h.maxApdu.toNat h.maxApdu.toNat_lt
  rwa [UInt8.ofNat_toNat] at h'

theorem fifty_le_maxApduOctets (h : ConfirmedHeader) : 50 ≤ h.maxApduOctets := by
  unfold maxApduOctets
  generalize (MaxApdu.ofCode? h.maxApdu.toUInt32).getD .upTo50 = size
  cases size <;> decide

end ConfirmedHeader

/-! ## Unconfirmed requests -/

namespace UnconfirmedHeader

@[simp] theorem fault_encode (service : UInt8) : (encode service).fault = none := by simp [encode]

theorem octets_encode (service : UInt8) :
    (encode service).octets = [PduType.unconfirmedRequest.firstOctet 0, service] := by
  simp [encode]

theorem reads_decode (service : UInt8) (rest : Octets) :
    decode.Reads (encode service).octets service rest := by
  unfold decode
  rw [octets_encode]
  exact (PduType.reads_decodeFlags _ _ _).bind (Decode.reads_octet service rest)

/-- What stood in front of the body of an unconfirmed request. -/
theorem exists_octets_of_decode {service : UInt8} {r r' : Reader}
    (hdecode : decode r = .ok service r') :
    ∃ first, r.unread = first :: service :: r'.unread ∧ r'.position = r.position + 2 ∧
      first >>> 4 = PduType.unconfirmedRequest.number := by
  unfold decode at hdecode
  obtain ⟨flags, r₁, hflags, hdecode⟩ := Decode.bind_eq_ok.1 hdecode
  obtain ⟨first, hfirst, hposition, hnumber, -⟩ := PduType.exists_octet_of_decodeFlags hflags
  obtain ⟨hservice, hposition₂⟩ := Decode.exact_octet hdecode
  refine ⟨first, ?_, ?_, hnumber⟩
  · rw [hfirst, hservice]
    rfl
  · simp only [List.length_singleton] at hposition₂
    omega

end UnconfirmedHeader

/-! ## Answers -/

namespace ComplexAckHeader

@[simp] theorem fault_encode (h : ComplexAckHeader) : h.encode.fault = none := by simp [encode]

theorem octets_encode (h : ComplexAckHeader) :
    h.encode.octets = [PduType.complexAck.firstOctet 0, h.invokeId, h.service] := by
  simp [encode]

/-- An acknowledgement with its body. -/
theorem octets_encode_append (h : ComplexAckHeader) (body : Encoding) : (h.encode ++ body).octets
    = PduType.complexAck.firstOctet 0 :: h.invokeId :: h.service :: body.octets := by
  rw [Encoding.octets_append h.fault_encode, octets_encode]
  rfl

theorem reads_decode (h : ComplexAckHeader) (rest : Octets) :
    decode.Reads h.encode.octets h rest := by
  unfold decode
  rw [octets_encode]
  refine (PduType.reads_decodeFlags _ _ _).bind ?_
  rw [if_neg (by decide)]
  exact (Decode.reads_octet h.invokeId _).bind ((Decode.reads_octet h.service rest).bind_pure _)

end ComplexAckHeader

namespace ErrorPdu

@[simp] theorem fault_encode (e : ErrorPdu) : e.encode.fault = none := by simp [encode]

theorem octets_encode (e : ErrorPdu) :
    e.encode.octets = PduType.error.firstOctet 0 :: e.invokeId :: e.service ::
      ((Contents.encodeUnsigned (.application .enumerated) e.errorClass).octets ++
        (Contents.encodeUnsigned (.application .enumerated) e.errorCode).octets) := by
  simp [encode]

theorem reads_decode (e : ErrorPdu) (rest : Octets) : decode.Reads e.encode.octets e rest := by
  unfold decode
  rw [octets_encode]
  refine (PduType.reads_decodeFlags _ _ _).bind ?_
  refine (Decode.reads_octet e.invokeId _).bind ?_
  refine (Decode.reads_octet e.service _).bind ?_
  refine (Contents.reads_appEnumerated e.errorClass _).bind ?_
  exact (Contents.reads_appEnumerated e.errorCode rest).bind_pure _

/-- An error fits the least size that a requester can take. -/
theorem size_encode_le (e : ErrorPdu) : e.encode.size ≤ 50 := by
  have hclass := Contents.length_encodeUnsigned_le .enumerated e.errorClass
  have hcode := Contents.length_encodeUnsigned_le .enumerated e.errorCode
  rw [Encoding.size, octets_encode]
  simp only [List.length_cons, List.length_append]
  omega

end ErrorPdu

namespace RejectPdu

@[simp] theorem fault_encode (r : RejectPdu) : r.encode.fault = none := by simp [encode]

theorem octets_encode (r : RejectPdu) :
    r.encode.octets = [PduType.reject.firstOctet 0, r.invokeId, r.reason] := by
  simp [encode]

theorem reads_decode (r : RejectPdu) (rest : Octets) : decode.Reads r.encode.octets r rest := by
  unfold decode
  rw [octets_encode]
  refine (PduType.reads_decodeFlags _ _ _).bind ?_
  exact (Decode.reads_octet r.invokeId _).bind ((Decode.reads_octet r.reason rest).bind_pure _)

/-- A reject fits the least size that a requester can take. -/
theorem size_encode_le (r : RejectPdu) : r.encode.size ≤ 50 := by
  rw [Encoding.size, octets_encode]
  simp

end RejectPdu

end Bacnet
