import Bacnet.Proofs.Responder
import Bacnet.Proofs.Template

set_option autoImplicit false

/-! # Questions answered over the wire

A question for properties that arrives in a frame is answered with a frame from which the reply of
the device is read back layer by layer, or with silence if its APDU is too large for the requester.
The chain runs from the datagram to the indication, through the device to the reply, and back
out. -/

namespace Bacnet

/-! ## Replies read back -/

/-- Reads an acknowledgement with its header, and all of it. -/
def ComplexAckHeader.decodeWith {α : Type} (body : Decode α) : Decode (ComplexAckHeader × α) := do
  let header ← decode
  let a ← body
  Decode.expectEnd
  return (header, a)

theorem ComplexAckHeader.reads_decodeWith {α : Type} {body : Decode α} {input : Octets} {a : α}
    (h : body.Reads input a []) (header : ComplexAckHeader) :
    (decodeWith body).Reads (header.encode.octets ++ input) (header, a) [] := by
  unfold decodeWith
  refine (header.reads_decode _).bind ?_
  refine Decode.Reads.bind_last (by simpa using h) ?_
  exact Decode.reads_expectEnd.bind_last (.pure _ [])

namespace Reply

/-- An APDU is read as the answer that a reply gives to a question for a service: behind its headers
    stand the error or the acknowledged values, these in normal form, and nothing else. -/
def IsReadFrom (reply : Reply) (invokeId service : UInt8) (apdu : Octets) : Prop :=
  match reply with
  | readPropertyAck _ _ a => (ComplexAckHeader.decodeWith ReadPropertyAck.decodeBody).outcome apdu
      = .ok (⟨invokeId, service⟩, a.received)
  | readPropertyMultipleAck _ a =>
    (ComplexAckHeader.decodeWith ReadPropertyMultipleAck.decodeBody).outcome apdu
      = .ok (⟨invokeId, service⟩, a.received)
  | error e => ErrorPdu.decode.outcome apdu = .ok e ∧ e.invokeId = invokeId ∧ e.service = service
  | _ => False

/-- Whether a reply answers a question of a requester for a service. -/
def Answers (reply : Reply) (requester : Requester) (service : UInt8) : Prop :=
  match reply with
  | readPropertyAck other _ _ => other = requester ∧ service = ReadProperty.service
  | readPropertyMultipleAck other _ => other = requester ∧ service = ReadPropertyMultiple.service
  | error e => e.invokeId = requester.invokeId ∧ e.service = service
  | _ => False

variable {reply : Reply} {requester : Requester} {service : UInt8}

theorem Answers.isBroadcast_eq_false (h : reply.Answers requester service) (config : Config) :
    reply.isBroadcast config = false := by
  cases reply with
  | readPropertyAck | readPropertyMultipleAck | error => rfl
  | _ => exact h.elim

/-- The written form of an answer is read as that answer. -/
theorem Answers.exists_encode (h : reply.Answers requester service) (hsendable : reply.Sendable) :
    ∃ e, reply.encode? = some e ∧ reply.IsReadFrom requester.invokeId service e.octets := by
  cases reply with
  | readPropertyAck other name a =>
      obtain ⟨rfl, rfl⟩ := h
      refine ⟨_, rfl, ?_⟩
      rw [ReadPropertyAck.octets_encode]
      exact (ComplexAckHeader.reads_decodeWith (ReadPropertyAck.reads_decodeBody hsendable [])
        _).outcome
  | readPropertyMultipleAck other a =>
      obtain ⟨rfl, rfl⟩ := h
      refine ⟨_, rfl, ?_⟩
      rw [ReadPropertyMultipleAck.octets_encode]
      exact (ComplexAckHeader.reads_decodeWith (ReadPropertyMultipleAck.reads_decodeBody hsendable)
        _).outcome
  | error e => exact ⟨_, rfl, (e.reads_decode []).outcome, h⟩
  | _ => exact h.elim

end Reply

/-! ## Questions -/

namespace Device

theorem answers_reply (d : Device) (config : Config) (requester : Requester) {request : Request}
    (h : request.AsksProperties) :
    (d.reply config ⟨some requester, request⟩).Answers requester request.service := by
  cases request with
  | readProperty q =>
      show (d.replyToReadProperty requester q).Answers requester ReadProperty.service
      unfold replyToReadProperty
      cases d.find? q.objectId with
      | none => exact ⟨rfl, rfl⟩
      | some target =>
          simp only
          split <;> exact ⟨rfl, rfl⟩
  | readPropertyMultiple q => exact ⟨rfl, rfl⟩
  | _ => exact h.elim

/-- The reply of a device to a request with a confirmed header. -/
def confirmedReply (d : Device) (config : Config) (confirmed : ConfirmedHeader)
    (request : Request) : Reply :=
  d.reply config ⟨some ⟨confirmed.invokeId, confirmed.maxApduOctets⟩, request⟩

end Device

namespace Responder

/-- A question for properties in a frame is answered with a frame from which the reply of the device
    is read back, or with silence if that reply is too large for the requester. -/
theorem process_question {t : Template} {d : Device} (hbuild : t.build = .ok d)
    (hshort : d.StringsShort) (config : Config) (source : Endpoint) {header : Npdu}
    (hheader : header.isNetworkMessage = false) {confirmed : ConfirmedHeader}
    (hsegment : confirmed.segment = none) (hsize : confirmed.maxApdu < 16) {request : Request}
    (hasks : request.AsksProperties) (hservice : confirmed.service = request.service)
    {datagram : Octets} (hdatagram : Carries datagram header
      (confirmed.encode.octets ++ request.encodeBody.octets)) :
    ∃ e, (d.confirmedReply config confirmed request).encode? = some e ∧
      if e.size ≤ (d.confirmedReply config confirmed request).limit then
        ∃ out, process ⟨d, config⟩ datagram source = some out ∧
          Carries out.frame header.replyTo e.octets ∧
          (d.confirmedReply config confirmed request).IsReadFrom confirmed.invokeId request.service
            e.octets
      else process ⟨d, config⟩ datagram source = none := by
  have hanswers : (d.confirmedReply config confirmed request).Answers
      ⟨confirmed.invokeId, confirmed.maxApduOctets⟩ request.service :=
    d.answers_reply config _ hasks
  have hsendable : (d.confirmedReply config confirmed request).Sendable :=
    (Template.sendable_of_build hbuild hshort).reply config _
  -- Inwards: the datagram is taken for the question, and the device replies to it.
  have hprocess : process ⟨d, config⟩ datagram source
      = ((d.confirmedReply config confirmed request).outgoing config header
          source).toOption.join := by
    rw [hdatagram.process_eq, Device.replyToApdu,
      Indication.ofApdu?_eq_some hheader hsegment hsize hasks hservice]
    rfl
  -- Outwards: the reply has a written form, from which it is read back.
  obtain ⟨e, he, hread⟩ := hanswers.exists_encode hsendable
  refine ⟨e, he, ?_⟩
  rw [hprocess, Reply.outgoing_eq hdatagram.wellFormed he (hsendable.fault_encode he)]
  by_cases hfits : e.size ≤ (d.confirmedReply config confirmed request).limit
  · rw [if_pos hfits, if_pos hfits]
    refine ⟨_, rfl, ?_, hread⟩
    have hheader : Reply.header ((d.confirmedReply config confirmed request).isBroadcast config)
        header = header.replyTo := by
      rw [hanswers.isBroadcast_eq_false config]
      rfl
    rw [← hheader]
    exact Reply.carries_sent _ _ _ hdatagram.wellFormed (Nat.le_trans hfits (Reply.limit_le _))
  · rw [if_neg hfits, if_neg hfits]
    rfl

/-- The question of a requester that takes all sizes for the name of a device is answered. -/
theorem process_question_objectName : ∃ d out apdu, Template.minimal.build = .ok d ∧
    process ⟨d, {}⟩ [0x81, 0x0A, 0, 17, 1, 4, 0, 5, 1, 12, 12, 2, 0, 0, 1, 25, 77]
      ⟨.v4 10 0 0 1, 47808, 0⟩ = some out ∧ Carries out.frame (.ofControl 0) apdu ∧
    (d.confirmedReply {} ⟨none, false, 0, 5, 1, ReadProperty.service⟩
      (.readProperty ⟨.ofParts .device 1, .objectName, none⟩)).IsReadFrom 1 ReadProperty.service
        apdu := by
  obtain ⟨d, hbuild, hshort⟩ := Template.exists_build_minimal
  have hdatagram : Carries [0x81, 0x0A, 0, 17, 1, 4, 0, 5, 1, 12, 12, 2, 0, 0, 1, 25, 77]
      (.ofControl 4) ((ConfirmedHeader.mk none false 0 5 1 ReadProperty.service).encode.octets ++
        (Request.readProperty ⟨.ofParts .device 1, .objectName, none⟩).encodeBody.octets) :=
    ⟨⟨.originalUnicastNpdu, none, _⟩, rfl, rfl⟩
  have hanswered : (Template.minimal.build.toOption.bind fun d => process ⟨d, {}⟩
      [0x81, 0x0A, 0, 17, 1, 4, 0, 5, 1, 12, 12, 2, 0, 0, 1, 25, 77]
      ⟨.v4 10 0 0 1, 47808, 0⟩).isSome = true := by
    decide +kernel
  rw [hbuild] at hanswered
  change (process ⟨d, {}⟩ _ _).isSome = true at hanswered
  obtain ⟨e, he, hanswer⟩ := process_question hbuild hshort {} ⟨.v4 10 0 0 1, 47808, 0⟩ (by decide)
    rfl (by decide) (by trivial) rfl hdatagram
  split at hanswer
  · obtain ⟨out, hout, hcarries, hread⟩ := hanswer
    exact ⟨d, out, e.octets, hbuild, hout, hcarries, hread⟩
  · rw [hanswer] at hanswered
    cases hanswered

end Responder

end Bacnet
