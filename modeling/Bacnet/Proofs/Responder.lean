import Bacnet.Proofs.Bvll
import Bacnet.Proofs.Npdu
import Bacnet.Responder

set_option autoImplicit false

/-! # What a responder sends

The buffers around an APDU never run out: a header that sets out is short, and the frame is given
the room that it takes. So a reply is sent if and only if its APDU has a written form that does not
exceed its limit (`outgoing_eq_ok_some_iff`), and what is sent is a frame around just that APDU
(`carries_sent`). -/

namespace Bacnet

/-! ## Frames around messages -/

namespace Responder

/-- A datagram is a frame around a message: a header of the network layer, and all behind it. -/
def Carries (datagram : Octets) (header : Npdu) (apdu : Octets) : Prop :=
  ∃ frame, BvllFrame.ofDatagram datagram = .ok frame ∧
    decodeMessage.outcome frame.npdu = .ok (header, apdu)

variable {datagram apdu : Octets} {header : Npdu}

theorem reads_decodeMessage (h : header.WellFormed) (apdu : Octets) :
    decodeMessage.Reads (header.encode.octets ++ apdu) (header, apdu) [] := by
  unfold decodeMessage
  refine (h.reads_decode _).bind ?_
  exact (Decode.reads_rest apdu).bind_pure _

/-- A frame that sets out is a frame around the message that was put into it. -/
theorem carries_encodeNpdu (h : header.WellFormed)
    (hlength : BvllFrame.headerLength + (header.encode.octets ++ apdu).length < 0x10000)
    (broadcast : Bool) :
    Carries (BvllFrame.encodeNpdu broadcast (header.encode.octets ++ apdu)).octets header apdu :=
  ⟨_, BvllFrame.ofDatagram_encodeNpdu hlength broadcast, (reads_decodeMessage h apdu).outcome⟩

theorem Carries.wellFormed (h : Carries datagram header apdu) : header.WellFormed := by
  obtain ⟨frame, -, hmessage⟩ := h
  obtain ⟨r, hmessage⟩ := Decode.outcome_eq_ok_iff.1 hmessage
  unfold decodeMessage at hmessage
  obtain ⟨header', r₁, hdecode, hmessage⟩ := Decode.bind_eq_ok.1 hmessage
  obtain ⟨rest, r₂, -, hmessage⟩ := Decode.bind_eq_ok.1 hmessage
  cases hmessage
  exact Npdu.wellFormed_of_decode hdecode

/-- The answer to a message is what its reply sends out. -/
theorem Carries.process_eq (h : Carries datagram header apdu) (r : Responder) (source : Endpoint) :
    r.process datagram source = ((r.device.replyToApdu r.config header apdu).outgoing r.config
      header source).toOption.join := by
  obtain ⟨frame, hframe, hmessage⟩ := h
  simp [process, hframe, hmessage, Except.toOption]

/-- Only frames around messages are answered. -/
theorem exists_carries_of_process {r : Responder} {source : Endpoint} {out : Outgoing}
    (h : r.process datagram source = some out) : ∃ header apdu, Carries datagram header apdu := by
  unfold process at h
  obtain ⟨frame, hframe, h⟩ := Option.bind_eq_some_iff.1 h
  obtain ⟨⟨header, apdu⟩, hmessage, -⟩ := Option.bind_eq_some_iff.1 h
  exact ⟨header, apdu, frame, Decode.eq_ok_of_toOption hframe, Decode.eq_ok_of_toOption hmessage⟩

end Responder

/-! ## Replies -/

namespace Reply

variable {reply : Reply} {config : Config} {request : Npdu} {source : Endpoint}

theorem apdu_eq {e : Encoding} (h : reply.encode? = some e) (hfault : e.fault = none) :
    reply.apdu = .ok (if e.size ≤ reply.limit then some e.octets else none) := by
  simp only [apdu, h, Encoding.within_eq hfault]
  by_cases hsize : e.size ≤ reply.limit
  · rw [if_pos hsize, if_pos hsize]
  · rw [if_neg hsize, if_neg hsize]

/-- The APDU that a reply has is its written form, which does not exceed its limit. -/
theorem exists_encode_of_apdu {apdu : Octets} (h : reply.apdu = .ok (some apdu)) :
    ∃ e, reply.encode? = some e ∧ e.fault = none ∧ e.size ≤ reply.limit ∧ e.octets = apdu := by
  unfold Reply.apdu at h
  split at h
  · cases h
  · next e he =>
      split at h
      · next octets hwithin =>
          cases h
          exact ⟨e, he, Encoding.within_eq_ok_iff.1 hwithin⟩
      · cases h
      · cases h

/-- The header in front of a reply. -/
def header (broadcast : Bool) (request : Npdu) : Npdu :=
  if broadcast then Npdu.globalBroadcast else request.replyTo

theorem wellFormed_header (h : request.WellFormed) (broadcast : Bool) :
    (header broadcast request).WellFormed := by
  cases broadcast with
  | true => exact Npdu.wellFormed_globalBroadcast
  | false => exact Npdu.wellFormed_replyTo h

theorem size_encode_header_le (h : request.WellFormed) (broadcast : Bool) :
    (header broadcast request).encode.size ≤ 12 := by
  cases broadcast with
  | true => exact Npdu.size_encode_toAddress_le (Nat.zero_le _)
  | false => exact Npdu.size_encode_replyTo_le h

theorem isNetworkMessage_header (broadcast : Bool) (request : Npdu) :
    (header broadcast request).isNetworkMessage = false := by
  cases broadcast with
  | true => exact Npdu.isNetworkMessage_toAddress _
  | false => exact Npdu.isNetworkMessage_replyTo request

theorem limit_le (reply : Reply) : reply.limit ≤ maxApdu := by
  cases reply with
  | readPropertyAck | readPropertyMultipleAck => exact Nat.min_le_right ..
  | _ => exact Nat.le_refl maxApdu

/-- A frame has the room that it takes. -/
theorem frame_eq (h : request.WellFormed) {apdu : Octets} (hlength : apdu.length ≤ maxApdu)
    (broadcast : Bool) : BvllFrame.headerLength +
        ((header broadcast request).encode.octets ++ apdu).length < 0x10000 ∧
      frame broadcast request apdu = .ok (BvllFrame.encodeNpdu broadcast
        ((header broadcast request).encode.octets ++ apdu)).octets := by
  have hsize : (header broadcast request).encode.octets.length ≤ 12 :=
    size_encode_header_le h broadcast
  -- Neither the room for the header nor the length field of the frame is ever used up.
  have hroom : (header broadcast request).encode.within maxHeaderLength
      = .ok (header broadcast request).encode.octets :=
    Encoding.within_eq_ok_iff.2 ⟨(wellFormed_header h broadcast).fault_encode,
      Nat.le_trans hsize (by decide), rfl⟩
  have hnpdu : BvllFrame.headerLength +
      ((header broadcast request).encode.octets ++ apdu).length < 0x10000 := by
    rw [List.length_append, BvllFrame.headerLength]
    simp only [maxApdu] at hlength
    omega
  refine ⟨hnpdu, ?_⟩
  have hframe := Encoding.within_eq_ok_iff.2 ⟨BvllFrame.fault_encodeNpdu hnpdu broadcast,
    Nat.le_of_eq (BvllFrame.size_encodeNpdu hnpdu broadcast), rfl⟩
  show ((header broadcast request).encode.within maxHeaderLength >>= fun octets =>
    (BvllFrame.encodeNpdu broadcast (octets ++ apdu)).within
      (BvllFrame.headerLength + (octets ++ apdu).length)) = _
  rw [hroom]
  exact hframe

/-- What is sent for an APDU. -/
def sent (reply : Reply) (config : Config) (request : Npdu) (source : Endpoint) (apdu : Octets) :
    Outgoing :=
  let broadcast := reply.isBroadcast config
  ⟨if broadcast then source.withIp config.broadcast else source, broadcast,
    (BvllFrame.encodeNpdu broadcast ((header broadcast request).encode.octets ++ apdu)).octets⟩

/-- What is sent is a frame around the APDU. -/
theorem carries_sent (reply : Reply) (config : Config) (source : Endpoint)
    (h : request.WellFormed) {apdu : Octets} (hlength : apdu.length ≤ maxApdu) :
    Responder.Carries (reply.sent config request source apdu).frame
      (header (reply.isBroadcast config) request) apdu :=
  Responder.carries_encodeNpdu (wellFormed_header h _) (frame_eq h hlength _).1 _

theorem outgoing_eq_of_apdu (h : request.WellFormed) {apdu : Octets}
    (hapdu : reply.apdu = .ok (some apdu)) (hlength : apdu.length ≤ maxApdu) :
    reply.outgoing config request source = .ok (some (reply.sent config request source apdu)) := by
  unfold outgoing
  rw [hapdu]
  show (frame (reply.isBroadcast config) request apdu >>= fun frame => pure (some (Outgoing.mk
    (if reply.isBroadcast config then source.withIp config.broadcast else source)
    (reply.isBroadcast config) frame))) = _
  rw [(frame_eq h hlength (reply.isBroadcast config)).2]
  rfl

/-- A reply with a written form is sent if that does not exceed its limit, and dropped otherwise;
    it never fails. -/
theorem outgoing_eq (h : request.WellFormed) {e : Encoding} (he : reply.encode? = some e)
    (hfault : e.fault = none) : reply.outgoing config request source
      = .ok (if e.size ≤ reply.limit then some (reply.sent config request source e.octets)
        else none) := by
  have happdu := apdu_eq he hfault
  by_cases hsize : e.size ≤ reply.limit
  · rw [if_pos hsize] at happdu ⊢
    exact outgoing_eq_of_apdu h happdu (Nat.le_trans hsize reply.limit_le)
  · rw [if_neg hsize] at happdu ⊢
    unfold outgoing
    rw [happdu]
    rfl

/-- What is sent is the written form of a reply that does not exceed its limit. -/
theorem outgoing_eq_ok_some_iff (h : request.WellFormed) {out : Outgoing} :
    reply.outgoing config request source = .ok (some out) ↔
      ∃ e, reply.encode? = some e ∧ e.fault = none ∧ e.size ≤ reply.limit ∧
        reply.sent config request source e.octets = out := by
  constructor
  · intro hout
    have happdu : ∃ apdu, reply.apdu = .ok (some apdu) := by
      unfold outgoing at hout
      cases happdu : reply.apdu with
      | error e => rw [happdu] at hout; cases hout
      | ok apdu? =>
          rw [happdu] at hout
          cases apdu? with
          | none => cases hout
          | some apdu => exact ⟨apdu, rfl⟩
    obtain ⟨apdu, happdu⟩ := happdu
    obtain ⟨e, he, hfault, hsize, rfl⟩ := exists_encode_of_apdu happdu
    rw [outgoing_eq_of_apdu h happdu (Nat.le_trans hsize reply.limit_le)] at hout
    exact ⟨e, he, hfault, hsize, Option.some.inj (Except.ok.inj hout)⟩
  · rintro ⟨e, he, hfault, hsize, rfl⟩
    rw [outgoing_eq h he hfault, if_pos hsize]

end Reply

/-! ## Answers -/

namespace Responder

variable {r : Responder} {datagram apdu : Octets} {header : Npdu} {source : Endpoint}
  {out : Outgoing}

/-- The answer to a message is the written form of its reply, which does not exceed its limit. -/
theorem Carries.process_eq_some_iff (h : Carries datagram header apdu) :
    r.process datagram source = some out ↔
      ∃ e, (r.device.replyToApdu r.config header apdu).encode? = some e ∧ e.fault = none ∧
        e.size ≤ (r.device.replyToApdu r.config header apdu).limit ∧
        (r.device.replyToApdu r.config header apdu).sent r.config header source e.octets = out := by
  rw [h.process_eq, ← Reply.outgoing_eq_ok_some_iff h.wellFormed]
  constructor
  · intro hout
    exact Decode.eq_ok_of_toOption (Option.join_eq_some_iff.1 hout)
  · intro hout
    rw [hout]
    rfl

section Reply

variable {d : Device} {config : Config} {reply : Reply}
  (hreply : d.replyToApdu config header apdu = reply)

include hreply

/-- A message is answered if its reply has a written form within the limit. -/
theorem Carries.exists_process_iff (h : Carries datagram header apdu) :
    (∃ out, process ⟨d, config⟩ datagram source = some out) ↔
      ∃ e, reply.encode? = some e ∧ ∃ answer, e.within reply.limit = .ok answer := by
  subst hreply
  constructor
  · rintro ⟨out, hout⟩
    obtain ⟨e, he, hfault, hsize, -⟩ := h.process_eq_some_iff.1 hout
    exact ⟨e, he, e.octets, Encoding.within_eq_ok_iff.2 ⟨hfault, hsize, rfl⟩⟩
  · rintro ⟨e, he, answer, hanswer⟩
    obtain ⟨hfault, hsize, -⟩ := Encoding.within_eq_ok_iff.1 hanswer
    exact ⟨_, h.process_eq_some_iff.2 ⟨e, he, hfault, hsize, rfl⟩⟩

/-- What a message is answered with is a frame around the written form of its reply. -/
theorem Carries.exists_carries_of_process (h : Carries datagram header apdu)
    (hout : process ⟨d, config⟩ datagram source = some out) :
    ∃ e, reply.encode? = some e ∧ e.fault = none ∧ e.size ≤ reply.limit ∧
      Carries out.frame (Reply.header (reply.isBroadcast config) header) e.octets := by
  subst hreply
  obtain ⟨e, he, hfault, hsize, rfl⟩ := h.process_eq_some_iff.1 hout
  refine ⟨e, he, hfault, hsize, Reply.carries_sent _ _ _ h.wellFormed ?_⟩
  exact Nat.le_trans hsize (Reply.limit_le _)

end Reply

end Responder

end Bacnet
