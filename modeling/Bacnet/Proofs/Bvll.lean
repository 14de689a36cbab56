import Bacnet.Bvll
import Bacnet.Proofs.Reader
import Bacnet.Proofs.Writer

set_option autoImplicit false

/-! # Frames read back

A frame is well formed when it names an origin just if it is forwarded and its length fits a word.
The well-formed frames are those that are read, each from one datagram only
(`ofDatagram_eq_ok_iff`). A message that sets out is framed without a failure unless it is longer
than a datagram can be, and the frame is read back as the message and how it was sent. -/

namespace Bacnet

/-! ## Addresses of origins -/

namespace IpAddress

/-- The octets of an address, most significant first. -/
def octets : IpAddress → Octets
  | v4 a b c d => [a, b, c, d]
  | v6 segments => segments.toList.flatMap Octets.ofUInt16

theorem octets_ofWord (word : UInt32) : (ofWord word).octets = Octets.ofUInt32 word := by
  have hlt := word.toNat_lt
  have hoctet : ∀ shift : UInt32, shift.toNat < 32 →
      (word >>> shift).toUInt8 = UInt8.ofNat (word.toNat / 2 ^ shift.toNat) := by
    intro shift hshift
    apply UInt8.toNat_inj.1
    rw [UInt32.toNat_toUInt8, UInt32.toNat_shiftRight, Nat.mod_eq_of_lt hshift,
      Nat.shiftRight_eq_div_pow, UInt8.toNat_ofNat']
  have hlow : word.toUInt8 = UInt8.ofNat (word.toNat / 1) := by
    rw [Nat.div_one]
    rfl
  show [_, _, _, _] = [_, _, _, _]
  rw [hoctet 24 (by decide), hoctet 16 (by decide), hoctet 8 (by decide), hlow]
  rfl

/-- Every IPv4 address is held by a word. -/
theorem exists_ofWord_eq_v4 (a b c d : UInt8) : ∃ word, ofWord word = .v4 a b c d := by
  refine ⟨.ofNat (Octets.toNat [a, b, c, d]), ?_⟩
  have h := octets_ofWord (.ofNat (Octets.toNat [a, b, c, d]))
  rw [Octets.ofUInt32_ofNat_toNat rfl] at h
  simp only [ofWord, octets, List.cons.injEq] at h
  simp only [ofWord, h]

end IpAddress

/-! ## Functions -/

namespace BvllFunction

theorem code_of_ofCode? {code : UInt8} {function : BvllFunction}
    (h : ofCode? code = some function) : function.code = code := by
  unfold ofCode? at h
  split at h <;> cases h <;> rfl

theorem ofBroadcast_ne_forwarded (broadcast : Bool) : ofBroadcast broadcast ≠ .forwardedNpdu := by
  cases broadcast <;> decide

end BvllFunction

namespace BvllFrame

/-! ## Frames as datagrams -/

/-- The octets of an origin: its address and its port. -/
def originOctets (origin : Endpoint) : Octets := origin.ip.octets ++ Octets.ofUInt16 origin.port

/-- What stands behind the length field of a frame. -/
def body (frame : BvllFrame) : Octets := frame.origin.elim [] originOctets ++ frame.npdu

/-- The datagram of a frame; its length field counts the whole of it. -/
def octets (frame : BvllFrame) : Octets :=
  type :: frame.function.code ::
    (Octets.ofUInt16 (.ofNat (headerLength + frame.body.length)) ++ frame.body)

/-- A frame has an origin, with an address that a word holds, just if it is forwarded, and its
    length fits a word. -/
structure WellFormed (frame : BvllFrame) : Prop where
  isSome_origin : frame.origin.isSome = (frame.function == .forwardedNpdu)
  origin_eq : ∀ origin ∈ frame.origin, ∃ word, origin = ⟨.ofWord word, origin.port, 0⟩
  length_lt : headerLength + frame.body.length < 0x10000

theorem length_octets (frame : BvllFrame) :
    frame.octets.length = headerLength + frame.body.length := by
  simp only [octets, List.length_cons, List.length_append, Octets.length_ofUInt16, headerLength]
  omega

theorem reads_decodeOrigin {origin : Endpoint} {word : UInt32}
    (h : origin = ⟨.ofWord word, origin.port, 0⟩) (rest : Octets) :
    decodeOrigin.Reads (originOctets origin) origin rest := by
  have hip : origin.ip = .ofWord word := congrArg Endpoint.ip h
  unfold decodeOrigin originOctets
  rw [hip, IpAddress.octets_ofWord]
  refine (Decode.reads_word32 word _).bind ?_
  have hport := (Decode.reads_word16 origin.port rest).bind_pure
    fun port => Endpoint.mk (.ofWord word) port 0
  rwa [← h] at hport

theorem exact_decodeOrigin : decodeOrigin.Exact originOctets := by
  intro r origin r' h
  unfold decodeOrigin at h
  obtain ⟨word, r₁, hword, h⟩ := Decode.bind_eq_ok.1 h
  obtain ⟨port, r₂, hport, h⟩ := Decode.bind_eq_ok.1 h
  cases h
  obtain ⟨hunread, hposition⟩ := Decode.exact_word32 hword
  obtain ⟨hunread', hposition'⟩ := Decode.exact_word16 hport
  simp only [originOctets, IpAddress.octets_ofWord, List.append_assoc, List.length_append]
  exact ⟨by rw [hunread, hunread'], by omega⟩

theorem exists_ofWord_of_decodeOrigin {r r' : Reader} {origin : Endpoint}
    (h : decodeOrigin r = .ok origin r') : ∃ word, origin = ⟨.ofWord word, origin.port, 0⟩ := by
  unfold decodeOrigin at h
  obtain ⟨word, r₁, -, h⟩ := Decode.bind_eq_ok.1 h
  obtain ⟨port, r₂, -, h⟩ := Decode.bind_eq_ok.1 h
  cases h
  exact ⟨word, rfl⟩

/-- A well-formed frame is read back from its datagram. -/
theorem WellFormed.ofDatagram_octets {frame : BvllFrame} (h : frame.WellFormed) :
    ofDatagram frame.octets = .ok frame := by
  obtain ⟨hsome, horigin, hlength⟩ := h
  have hword : (UInt16.ofNat (headerLength + frame.body.length)).toNat
      = headerLength + frame.body.length := UInt16.toNat_ofNat_of_lt' hlength
  refine Decode.Reads.outcome ?_
  rw [length_octets]
  unfold decodeWithin octets
  refine (Decode.reads_octet type _).bind ?_
  rw [if_neg (by simp)]
  refine (Decode.reads_octet frame.function.code _).bind ?_
  refine (Decode.reads_word16 _ _).bind ?_
  rw [if_neg (not_not_intro hword), BvllFunction.ofCode?_code]
  obtain ⟨function, origin, npdu⟩ := frame
  cases origin with
  | none =>
      cases function with
      | forwardedNpdu => cases hsome
      | _ => exact (Decode.reads_rest npdu).bind_pure _
  | some origin =>
      obtain ⟨word, heq⟩ := horigin origin rfl
      cases function with
      | forwardedNpdu =>
          refine (reads_decodeOrigin heq _).bind ?_
          exact (Decode.reads_rest npdu).bind_pure _
      | _ => cases hsome

/-- A frame that was read stood there field by field. -/
theorem exists_fields_of_decodeWithin {length : Nat} {frame : BvllFrame} {r r' : Reader}
    (h : decodeWithin length r = .ok frame r') : ∃ word : UInt16, word.toNat = length ∧
      r.unread = type :: frame.function.code :: (Octets.ofUInt16 word ++ frame.body) ∧
      frame.origin.isSome = (frame.function == .forwardedNpdu) ∧
      ∀ origin ∈ frame.origin, ∃ word, origin = ⟨.ofWord word, origin.port, 0⟩ := by
  unfold decodeWithin at h
  obtain ⟨first, r₁, hfirst, h⟩ := Decode.bind_eq_ok.1 h
  obtain ⟨htype, h⟩ := Decode.of_guard_eq_ok h
  obtain ⟨code, r₂, hcode, h⟩ := Decode.bind_eq_ok.1 h
  obtain ⟨word, r₃, hword, h⟩ := Decode.bind_eq_ok.1 h
  obtain ⟨hcount, h⟩ := Decode.of_guard_eq_ok h
  have hfront : r.unread = type :: code :: (Octets.ofUInt16 word ++ r₃.unread) := by
    have h₁ : r.unread = first :: r₁.unread := (Decode.exact_octet hfirst).1
    have h₂ : r₁.unread = code :: r₂.unread := (Decode.exact_octet hcode).1
    rw [h₁, h₂, (Decode.exact_word16 hword).1, not_not.1 htype]
  refine ⟨word, not_not.1 hcount, ?_⟩
  rw [hfront]
  split at h
  · cases h
  · next hfunction =>
      obtain ⟨origin, r₄, horigin, h⟩ := Decode.bind_eq_ok.1 h
      obtain ⟨npdu, r₅, hnpdu, h⟩ := Decode.bind_eq_ok.1 h
      cases h
      have hbody : r₃.unread = originOctets origin ++ npdu := by
        rw [(exact_decodeOrigin horigin).1, (Decode.eq_of_rest hnpdu).1]
      refine ⟨?_, rfl, ?_⟩
      · rw [hbody, ← BvllFunction.code_of_ofCode? hfunction]
        rfl
      · intro other hother
        cases hother
        exact exists_ofWord_of_decodeOrigin horigin
  · next function hforwarded hfunction =>
      obtain ⟨npdu, r₄, hnpdu, h⟩ := Decode.bind_eq_ok.1 h
      cases h
      refine ⟨?_, ?_, fun _ h => (nomatch h)⟩
      · rw [← (Decode.eq_of_rest hnpdu).1, ← BvllFunction.code_of_ofCode? hfunction]
        rfl
      · cases function with
        | forwardedNpdu => exact absurd rfl hforwarded
        | _ => rfl

/-- The well-formed frames are those that are read, and each from its own datagram only. -/
theorem ofDatagram_eq_ok_iff {datagram : Octets} {frame : BvllFrame} :
    ofDatagram datagram = .ok frame ↔ frame.WellFormed ∧ frame.octets = datagram := by
  constructor
  · intro h
    obtain ⟨r, h⟩ := Decode.outcome_eq_ok_iff.1 h
    obtain ⟨word, hcount, hfields, hsome, horigin⟩ := exists_fields_of_decodeWithin h
    have hdatagram : datagram
        = type :: frame.function.code :: (Octets.ofUInt16 word ++ frame.body) := hfields
    -- The length that is counted is that of the fields, so the word is the one that is written.
    have hlength : word.toNat = headerLength + frame.body.length := by
      rw [hcount, hdatagram, List.length_cons, List.length_cons, List.length_append,
        Octets.length_ofUInt16, headerLength]
      omega
    refine ⟨⟨hsome, horigin, hlength ▸ word.toNat_lt⟩, ?_⟩
    rw [octets, ← hlength, UInt16.ofNat_toNat, hdatagram]
  · rintro ⟨h, rfl⟩
    exact h.ofDatagram_octets

example : octets ⟨.forwardedNpdu, some ⟨.v4 203 0 113 9, 53, 0⟩, [1, 0]⟩
    = [0x81, 0x04, 0, 12, 203, 0, 113, 9, 0, 53, 1, 0] := rfl

/-- The length of a frame stands in its third and fourth octet. -/
theorem toNat_length_field {datagram : Octets} {frame : BvllFrame}
    (h : ofDatagram datagram = .ok frame) :
    Octets.toNat ((datagram.drop 2).take 2) = datagram.length := by
  obtain ⟨hwf, rfl⟩ := ofDatagram_eq_ok_iff.1 h
  have hfield : (frame.octets.drop 2).take 2
      = Octets.ofUInt16 (.ofNat (headerLength + frame.body.length)) :=
    List.take_left' (Octets.length_ofUInt16 _)
  rw [hfield, Octets.toNat_ofUInt16, UInt16.toNat_ofNat_of_lt' hwf.length_lt, length_octets]

/-! ## Frames around a message -/

variable {npdu : Octets}

theorem wellFormed_of_ne_forwarded {function : BvllFunction} (h : function ≠ .forwardedNpdu)
    (hlength : headerLength + npdu.length < 0x10000) : WellFormed ⟨function, none, npdu⟩ where
  isSome_origin := by
    cases function with
    | forwardedNpdu => exact absurd rfl h
    | _ => rfl
  origin_eq origin horigin := nomatch horigin
  length_lt := hlength

theorem wellFormed_forwarded (a b c d : UInt8) (port : UInt16)
    (hlength : 10 + npdu.length < 0x10000) :
    WellFormed ⟨.forwardedNpdu, some ⟨.v4 a b c d, port, 0⟩, npdu⟩ where
  isSome_origin := rfl
  origin_eq origin horigin := by
    cases horigin
    obtain ⟨word, hword⟩ := IpAddress.exists_ofWord_eq_v4 a b c d
    exact ⟨word, by rw [hword]⟩
  length_lt := by
    simp only [body, originOctets, IpAddress.octets, Option.elim_some, List.length_append,
      List.length_cons, List.length_nil, Octets.length_ofUInt16, headerLength]
    omega

theorem fault_encodeNpdu (h : headerLength + npdu.length < 0x10000) (broadcast : Bool) :
    (encodeNpdu broadcast npdu).fault = none := by
  simp only [encodeNpdu, if_pos h]
  simp

theorem octets_encodeNpdu (h : headerLength + npdu.length < 0x10000) (broadcast : Bool) :
    (encodeNpdu broadcast npdu).octets = octets ⟨.ofBroadcast broadcast, none, npdu⟩ := by
  simp only [encodeNpdu, if_pos h]
  simp [octets, body]

theorem size_encodeNpdu (h : headerLength + npdu.length < 0x10000) (broadcast : Bool) :
    (encodeNpdu broadcast npdu).size = headerLength + npdu.length := by
  rw [Encoding.size, octets_encodeNpdu h, length_octets]
  rfl

/-- The frame of a message that sets out is read back as the message. -/
theorem ofDatagram_encodeNpdu (h : headerLength + npdu.length < 0x10000) (broadcast : Bool) :
    ofDatagram (encodeNpdu broadcast npdu).octets
      = .ok ⟨.ofBroadcast broadcast, none, npdu⟩ := by
  rw [octets_encodeNpdu h]
  exact (wellFormed_of_ne_forwarded (BvllFunction.ofBroadcast_ne_forwarded broadcast)
    h).ofDatagram_octets

end BvllFrame

end Bacnet
