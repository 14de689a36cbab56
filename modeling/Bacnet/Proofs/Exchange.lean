import Bacnet.Proofs.Registry
import Bacnet.Proofs.Responder

set_option autoImplicit false

/-! # What is answered, and with what

There are five exchanges: a question for one property and one for many, a request for a service that
is not known, and the two questions of discovery. Each has its own form of request and of answer
(`Device.Exchange`). Whatever else arrives is met with silence: what is answered came in a frame
whose layers are all what they say they are (`Responder.IsMessage`), and a reply with a written form
makes one of the five with it (`Device.exchange_of_replyToApdu`). -/

namespace Bacnet

/-! ## Exchanges -/

/-- A request and the answer of a device to it, as APDUs. -/
inductive Device.Exchange (d : Device) (config : Config) : (request answer : Octets) → Prop
  /-- A question for one property is acknowledged or met with an error. -/
  | readProperty {first sizes invokeId : UInt8} {body answer : Octets} {q : ReadProperty}
      (htype : first >>> 4 = 0) (hwhole : first &&& 8 = 0)
      (hbody : ReadProperty.decodeBody.TakesAll 4 body q)
      (hanswer : (∃ values, answer = 0x30 :: invokeId :: 12 :: values) ∨
        ∃ errorClass errorCode, answer.head? = some 0x50 ∧
          ErrorPdu.decode.outcome answer = .ok ⟨invokeId, 12, errorClass, errorCode⟩) :
      Exchange d config (first :: sizes :: invokeId :: 12 :: body) answer
  /-- A question for many properties is acknowledged. -/
  | readPropertyMultiple {first sizes invokeId : UInt8} {body answer values : Octets}
      {q : ReadPropertyMultiple} (htype : first >>> 4 = 0) (hwhole : first &&& 8 = 0)
      (hbody : ReadPropertyMultiple.decodeBody.TakesAll 4 body q)
      (hanswer : answer = 0x30 :: invokeId :: 14 :: values) :
      Exchange d config (first :: sizes :: invokeId :: 14 :: body) answer
  /-- A confirmed request for any other service is turned away as not recognized, if at all. -/
  | unrecognized {first sizes invokeId service : UInt8} {body : Octets}
      (htype : first >>> 4 = 0) (hwhole : first &&& 8 = 0)
      (hservice : service ≠ 12 ∧ service ≠ 14) (hrejects : config.rejectUnrecognized = true) :
      Exchange d config (first :: sizes :: invokeId :: service :: body) [0x60, invokeId, 9]
  /-- A device that a question means says that it is there. -/
  | whoIs {first : UInt8} {body answer : Octets} {q : WhoIs} (htype : first >>> 4 = 1)
      (hbody : WhoIs.decodeBody.TakesAll 2 body q)
      (hrange : ∀ range ∈ q.range, range.low ≤ d.instanceNumber ∧ d.instanceNumber ≤ range.high)
      (hanswer : (UnconfirmedHeader.decodeWith IAm.service IAm.decodeBody).outcome answer
        = .ok d.iAm) : Exchange d config (first :: 8 :: body) answer
  /-- A device that a question means says that it has the object, an owned one. -/
  | whoHas {first : UInt8} {body answer : Octets} {q : WhoHas} {o : Object}
      (htype : first >>> 4 = 1) (hbody : WhoHas.decodeBody.TakesAll 2 body q)
      (hrange : ∀ range ∈ q.range, range.low ≤ d.instanceNumber ∧ d.instanceNumber ≤ range.high)
      (howned : o ∈ d.objects) (hfound : d.owned? q.wanted = some o)
      (hwanted : d.NamesIndexed → o.IsWanted q.wanted)
      (hanswer : (UnconfirmedHeader.decodeWith IHave.service IHave.decodeBody).outcome answer
        = .ok (d.iHave o)) : Exchange d config (first :: 7 :: body) answer

namespace Device

variable {d : Device} {config : Config} {e : Encoding}

/-! ## Replies as answers -/

theorem answer_of_replyToReadProperty {requester : Requester} {q : ReadProperty}
    (he : (d.replyToReadProperty requester q).encode? = some e) :
    (∃ values, e.octets = 0x30 :: requester.invokeId :: 12 :: values) ∨
      ∃ errorClass errorCode, e.octets.head? = some 0x50 ∧
        ErrorPdu.decode.outcome e.octets = .ok ⟨requester.invokeId, 12, errorClass, errorCode⟩ := by
  have herror : ∀ errorClass errorCode, (Reply.errorOf requester ReadProperty.service errorClass
      errorCode).encode? = some e → ∃ errorClass errorCode, e.octets.head? = some 0x50 ∧
        ErrorPdu.decode.outcome e.octets
          = .ok ⟨requester.invokeId, 12, errorClass, errorCode⟩ := by
    intro errorClass errorCode he
    cases he
    refine ⟨_, _, ?_, (ErrorPdu.reads_decode _ []).outcome⟩
    rw [ErrorPdu.octets_encode]
    rfl
  unfold replyToReadProperty at he
  cases hfind : d.find? q.objectId with
  | none =>
      rw [hfind] at he
      exact .inr (herror _ _ he)
  | some target =>
      rw [hfind] at he
      simp only at he
      split at he
      · cases he
        rw [ReadPropertyAck.encode_eq]
        exact .inl ⟨_, ComplexAckHeader.octets_encode_append ..⟩
      · exact .inr (herror _ _ he)

/-- What there is to say to a confirmed request makes an exchange with it: its service decides which
    body was read, and so which reply there is. -/
theorem exchange_of_confirmed {first sizes invokeId service : UInt8} {body : Octets} {size : Nat}
    {request : Request} {r : Reader} (htype : first >>> 4 = 0) (hwhole : first &&& 8 = 0)
    (hrequest : Request.decodeConfirmed service ⟨4, body⟩ = .ok request r)
    (he : (d.reply config ⟨some ⟨invokeId, size⟩, request⟩).encode? = some e) :
    d.Exchange config (first :: sizes :: invokeId :: service :: body) e.octets := by
  rcases Request.cases_of_decodeConfirmed hrequest with ⟨q, rfl, rfl, hbody⟩ |
    ⟨q, rfl, rfl, hbody⟩ | ⟨hsingle, hmultiple, rfl⟩
  · exact .readProperty htype hwhole hbody (answer_of_replyToReadProperty he)
  · cases he
    exact .readPropertyMultiple htype hwhole hbody (ComplexAckHeader.octets_encode_append ..)
  · cases hrejects : config.rejectUnrecognized with
    | false => simp [reply, hrejects, Reply.encode?] at he
    | true =>
        simp only [reply, hrejects, if_true] at he
        cases he
        rw [RejectPdu.octets_encode]
        exact .unrecognized htype hwhole ⟨hsingle, hmultiple⟩ hrejects

/-- What there is to say to an unconfirmed request makes an exchange with it. -/
theorem exchange_of_unconfirmed {first service : UInt8} {body : Octets} {request : Request}
    {r : Reader} (htype : first >>> 4 = 1)
    (hrequest : Request.decodeUnconfirmed service ⟨2, body⟩ = .ok request r)
    (he : (d.reply config ⟨none, request⟩).encode? = some e) (hfault : e.fault = none) :
    d.Exchange config (first :: service :: body) e.octets := by
  rcases Request.cases_of_decodeUnconfirmed hrequest with ⟨q, rfl, rfl, hbody⟩ |
    ⟨q, rfl, rfl, hbody⟩ | rfl
  · change (d.replyToWhoHas q).encode? = some e at he
    unfold replyToWhoHas at he
    split at he
    · next hadmits =>
        cases hfound : d.owned? q.wanted with
        | none =>
            rw [hfound] at he
            cases he
        | some o =>
            rw [hfound] at he
            cases he
            exact .whoHas htype hbody (DeviceRange.admits_iff.1 hadmits)
              (mem_objects_of_owned? hfound) hfound (fun h => h.isWanted_of_owned? hfound)
              (IHave.outcome_decodeWith hfault)
    · cases he
  · change (d.replyToWhoIs q).encode? = some e at he
    unfold replyToWhoIs at he
    split at he
    · next hadmits =>
        cases he
        exact .whoIs htype hbody (DeviceRange.admits_iff.1 hadmits) d.iAm.outcome_decodeWith
    · cases he
  · cases he

/-- What a device has to say to a message makes an exchange with it. -/
theorem exchange_of_replyToApdu {header : Npdu} {apdu : Octets}
    (he : (d.replyToApdu config header apdu).encode? = some e) (hfault : e.fault = none) :
    header.isNetworkMessage = false ∧ d.Exchange config apdu e.octets := by
  unfold replyToApdu at he
  cases hindication : Indication.ofApdu? header apdu with
  | none =>
      rw [hindication] at he
      cases he
  | some indication =>
      rw [hindication] at he
      obtain ⟨requester, request⟩ := indication
      obtain ⟨hheader, hcases⟩ := Indication.cases_of_ofApdu? hindication
      refine ⟨hheader, ?_⟩
      rcases hcases with ⟨first, sizes, invokeId, service, body, size, r, rfl, htype, hwhole,
        hrequester, hrequest⟩ | ⟨first, service, body, r, rfl, htype, hrequester, hrequest⟩
      · cases hrequester
        exact exchange_of_confirmed htype hwhole hrequest he
      · cases hrequester
        exact exchange_of_unconfirmed htype hrequest he hfault

end Device

/-! ## Answers -/

namespace Responder

/-- A datagram is a frame around an NPDU around an APDU, and each layer is what it says it is. -/
structure IsMessage (datagram : Octets) (frame : BvllFrame) (header : Npdu) (apdu : Octets) :
    Prop where
  front : ∃ code ∈ [0x04, 0x09, 0x0A, 0x0B], datagram.take 2 = [0x81, code]
  length_field : Octets.toNat ((datagram.drop 2).take 2) = datagram.length
  ofDatagram_eq : BvllFrame.ofDatagram datagram = .ok frame
  version : frame.npdu.head? = some 1
  outcome_eq : decodeMessage.outcome frame.npdu = .ok (header, apdu)
  isNetworkMessage_eq : header.isNetworkMessage = false

variable {r : Responder} {datagram apdu : Octets} {header : Npdu} {source : Endpoint}
  {out : Outgoing}

theorem Carries.exists_isMessage (h : Carries datagram header apdu)
    (hheader : header.isNetworkMessage = false) :
    ∃ frame, IsMessage datagram frame header apdu := by
  obtain ⟨frame, hframe, hmessage⟩ := h
  refine ⟨frame, {
    front := ?front
    length_field := BvllFrame.toNat_length_field hframe
    ofDatagram_eq := hframe
    version := ?version
    outcome_eq := hmessage
    isNetworkMessage_eq := hheader }⟩
  case front =>
    obtain ⟨-, rfl⟩ := BvllFrame.ofDatagram_eq_ok_iff.1 hframe
    refine ⟨frame.function.code, ?_, rfl⟩
    cases frame.function <;> decide
  case version =>
    obtain ⟨r, hmessage⟩ := Decode.outcome_eq_ok_iff.1 hmessage
    unfold decodeMessage at hmessage
    obtain ⟨header', r₁, hdecode, -⟩ := Decode.bind_eq_ok.1 hmessage
    exact Npdu.head?_of_decode hdecode

/-- Only a request in a frame is answered, and each with the kind of answer that it asks for. The
    object of an announcement is the one that was asked for if the directory of names is right,
    which it is in every device that is built (`Template.namesIndexed_of_build`). -/
theorem process_exchange (h : r.process datagram source = some out) :
    ∃ frame request body header answer, IsMessage datagram frame request body ∧
      Carries out.frame header answer ∧ r.device.Exchange r.config body answer := by
  obtain ⟨request, body, hcarries⟩ := exists_carries_of_process h
  obtain ⟨e, he, hfault, hfits, rfl⟩ := hcarries.process_eq_some_iff.1 h
  obtain ⟨hrequest, hexchange⟩ := Device.exchange_of_replyToApdu he hfault
  obtain ⟨frame, hmessage⟩ := hcarries.exists_isMessage hrequest
  exact ⟨frame, request, body, _, e.octets, hmessage,
    Reply.carries_sent _ _ _ hcarries.wellFormed (Nat.le_trans hfits (Reply.limit_le _)),
    hexchange⟩

/-- A request for a service that is not known, turned away by a device that says so. -/
theorem process_exchange_unrecognized : ∃ (r : Responder) (out : Outgoing) (header : Npdu),
    r.process [0x81, 0x0A, 0, 10, 1, 4, 0, 5, 1, 15] ⟨.v4 10 0 0 1, 47808, 0⟩ = some out ∧
    Carries out.frame header [0x60, 1, 9] := by
  let r : Responder := ⟨.bare, { rejectUnrecognized := true }⟩
  have hsome : (r.process [0x81, 0x0A, 0, 10, 1, 4, 0, 5, 1, 15]
      ⟨.v4 10 0 0 1, 47808, 0⟩).isSome = true := by
    decide +kernel
  obtain ⟨out, hout⟩ := Option.isSome_iff_exists.1 hsome
  obtain ⟨frame, request, body, header, answer, hmessage, hcarries, hexchange⟩ :=
    process_exchange hout
  have hbody : body = [0, 5, 1, 15] := by
    obtain ⟨-, -, hframe, -, houtcome, -⟩ := hmessage
    cases hframe
    cases houtcome
    rfl
  -- Of the five exchanges only one has a request for this service.
  subst hbody
  cases hexchange with
  | unrecognized => exact ⟨r, out, header, hout, hcarries⟩

end Responder

end Bacnet
