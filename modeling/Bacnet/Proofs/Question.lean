import Bacnet.Proofs.Request

set_option autoImplicit false

/-! # Questions taken as they were asked

A question is written as a whole APDU: the header of its service and its body. Whoever gets the APDU
judges its kind by the first octet, reads the header, and then reads the body with the table for
that kind. A range, an index and a name are recognised by their tags alone, so each of them must be
told from whatever can follow. -/

namespace Bacnet

namespace Request

/-- The APDU that asks a question; nobody asks for a service that is not known. -/
def encode? (invokeId : UInt8) : Request → Option Encoding
  | whoIs q => some q.encode
  | whoHas q => some q.encode
  | readProperty q => some (q.encode invokeId)
  | readPropertyMultiple q => some (q.encode invokeId)
  | unsupported _ => none

/-- Whether a question can be asked: a tag can count its name, and it asks for something. -/
def IsAskable : Request → Prop
  | whoIs _ | readProperty _ => True
  | whoHas q => q.wanted.Fits
  | readPropertyMultiple q => q.Asks
  | unsupported _ => False

/-- How the APDU of a question is taken behind a header of the network layer. It is of the kind of
    its service, the header in it has one segment with the number and the service of the question,
    the body behind that is the question to its end, and that is the question that arrives. -/
def IsTaken (request : Request) (invokeId : UInt8) (header : Npdu) (apdu : Octets) : Prop :=
  match request with
  | whoIs _ | whoHas _ =>
    MessageKind.of header apdu = .pdu .unconfirmedRequest ∧
      UnconfirmedHeader.decode.ReadsInTurn (decodeUnconfirmed request.service) apdu
        request.service request ∧
      Indication.ofApdu? header apdu = some ⟨none, request⟩
  | readProperty _ | readPropertyMultiple _ =>
    MessageKind.of header apdu = .pdu .confirmedRequest ∧
      ConfirmedHeader.decode.ReadsInTurn (decodeConfirmed request.service) apdu
        (.unsegmented invokeId request.service) request ∧
      Indication.ofApdu? header apdu = some ⟨some ⟨invokeId, 1476⟩, request⟩
  | unsupported _ => False

/-! ## Unconfirmed questions -/

theorem reads_whoIs (q : WhoIs) :
    (decodeUnconfirmed WhoIs.service).Reads (DeviceRange.encodeOptional q.range).octets
      (whoIs q) [] := by
  rw [decodeUnconfirmed, if_neg (by decide), if_pos rfl]
  exact q.reads_decodeBody.map whoIs

theorem reads_whoHas {q : WhoHas} (h : q.wanted.Fits) :
    (decodeUnconfirmed WhoHas.service).Reads q.encodeBody.octets (whoHas q) [] := by
  rw [decodeUnconfirmed, if_pos rfl]
  exact (WhoHas.reads_decodeBody h).map whoHas

/-- What is read from a body is taken as a question behind the header of its service. -/
theorem taken_of_reads {header : Npdu} (hheader : header.isNetworkMessage = false)
    {service : UInt8} {body apdu : Octets} {request : Request}
    (happdu : apdu = (UnconfirmedHeader.encode service).octets ++ body)
    (hread : (decodeUnconfirmed service).Reads body request []) :
    MessageKind.of header apdu = .pdu .unconfirmedRequest ∧
      UnconfirmedHeader.decode.ReadsInTurn (decodeUnconfirmed service) apdu service request ∧
      Indication.ofApdu? header apdu = some ⟨none, request⟩ := by
  subst happdu
  refine ⟨MessageKind.of_unconfirmed hheader service body, ?_, ?_⟩
  · exact (UnconfirmedHeader.reads_decode service body).inTurn hread
  · have harrives := Indication.ofApdu?_of_reads hheader hread
    rwa [List.append_nil] at harrives

/-! ## Confirmed questions -/

theorem maxApdu_unsegmented_lt (invokeId service : UInt8) :
    (ConfirmedHeader.unsegmented invokeId service).maxApdu < 16 := by
  show MaxApdu.upTo1476.code.toUInt8 < 16
  decide

theorem reads_decode_unsegmented (invokeId service : UInt8) (rest : Octets) :
    ConfirmedHeader.decode.Reads (ConfirmedHeader.unsegmented invokeId service).encode.octets
      (.unsegmented invokeId service) rest := by
  have h := (ConfirmedHeader.unsegmented invokeId service).reads_decode rest
  have hsegments : (ConfirmedHeader.unsegmented invokeId service).maxSegments &&& 7 = 0 :=
    UInt8.zero_and
  rwa [Octets.and_fifteen_of_lt (maxApdu_unsegmented_lt invokeId service), hsegments] at h

/-- A question for properties is taken behind a header in one segment. -/
theorem taken_of_asksProperties {header : Npdu} (hheader : header.isNetworkMessage = false)
    {request : Request} (h : request.AsksProperties) (invokeId : UInt8) {apdu : Octets}
    (happdu : apdu = (ConfirmedHeader.unsegmented invokeId request.service).encode.octets ++
      request.encodeBody.octets) :
    MessageKind.of header apdu = .pdu .confirmedRequest ∧
      ConfirmedHeader.decode.ReadsInTurn (decodeConfirmed request.service) apdu
        (.unsegmented invokeId request.service) request ∧
      Indication.ofApdu? header apdu = some ⟨some ⟨invokeId, 1476⟩, request⟩ := by
  subst happdu
  refine ⟨MessageKind.of_confirmed hheader _ _, ?_, ?_⟩
  · exact (reads_decode_unsegmented invokeId request.service _).inTurn (reads_decodeConfirmed h)
  · exact Indication.ofApdu?_eq_some hheader rfl (maxApdu_unsegmented_lt _ _) h rfl

/-! ## All questions -/

variable {request : Request}

/-- A question that can be asked has a written form. -/
theorem IsAskable.exists_encode (h : request.IsAskable) (invokeId : UInt8) :
    ∃ e, request.encode? invokeId = some e ∧ e.fault = none := by
  cases request with
  | whoIs q => exact ⟨_, rfl, q.fault_encode⟩
  | whoHas q => exact ⟨_, rfl, WhoHas.fault_encode h⟩
  | readProperty q => exact ⟨_, rfl, q.fault_encode invokeId⟩
  | readPropertyMultiple q => exact ⟨_, rfl, q.fault_encode invokeId⟩
  | unsupported service => exact h.elim

/-- The written form of a question is taken as that question. -/
theorem IsAskable.isTaken (h : request.IsAskable) {invokeId : UInt8} {e : Encoding}
    (he : request.encode? invokeId = some e) {header : Npdu}
    (hheader : header.isNetworkMessage = false) : request.IsTaken invokeId header e.octets := by
  cases request with
  | whoIs q =>
      cases he
      exact taken_of_reads hheader q.octets_encode (reads_whoIs q)
  | whoHas q =>
      cases he
      exact taken_of_reads hheader q.octets_encode (reads_whoHas h)
  | readProperty q =>
      cases he
      have hasks : (readProperty q).AsksProperties := trivial
      exact taken_of_asksProperties hheader hasks invokeId (q.octets_encode invokeId)
  | readPropertyMultiple q =>
      cases he
      have hasks : (readPropertyMultiple q).AsksProperties := h
      exact taken_of_asksProperties hheader hasks invokeId (q.octets_encode invokeId)
  | unsupported service => cases he

/-- Every question that can be asked is written into each buffer that is large enough for it, and
    what was written is taken as the question. -/
theorem exists_encode_isTaken (h : request.IsAskable) (invokeId : UInt8) {header : Npdu}
    (hheader : header.isNetworkMessage = false) :
    ∃ e, request.encode? invokeId = some e ∧
      (∀ capacity, e.size ≤ capacity → e.within capacity = .ok e.octets) ∧
      request.IsTaken invokeId header e.octets := by
  obtain ⟨e, he, hfault⟩ := h.exists_encode invokeId
  refine ⟨e, he, fun capacity hfits => ?_, h.isTaken he hheader⟩
  exact Encoding.within_eq_ok_iff.2 ⟨hfault, hfits, rfl⟩

/-- A question without a range for a name that is not ASCII, and a question for two objects with an
    index on the one reference that another follows. -/
theorem exists_encode_isTaken_name_index :
    IsTaken (.whoHas ⟨none, .byName "é"⟩) 0 (.ofControl 0) [0x10, 7, 0x3B, 0, 0xC3, 0xA9] ∧
    IsTaken (.readPropertyMultiple
        ⟨[⟨⟨1⟩, [⟨⟨87⟩, some 300⟩, ⟨⟨77⟩, none⟩]⟩, ⟨⟨2⟩, [⟨⟨85⟩, none⟩]⟩]⟩) 9 (.ofControl 4)
      [2, 5, 9, 14, 0x0C, 0, 0, 0, 1, 0x1E, 9, 87, 0x1A, 1, 44, 9, 77, 0x1F,
        0x0C, 0, 0, 0, 2, 0x1E, 9, 85, 0x1F] := by
  have hname : IsAskable (.whoHas ⟨none, .byName "é"⟩) := by
    show (Octets.ofString "é").length + 1 < 0x100000000
    decide +kernel
  have hindex : IsAskable (.readPropertyMultiple
      ⟨[⟨⟨1⟩, [⟨⟨87⟩, some 300⟩, ⟨⟨77⟩, none⟩]⟩, ⟨⟨2⟩, [⟨⟨85⟩, none⟩]⟩]⟩) := by
    refine ⟨by simp, fun spec hspec => ?_⟩
    simp only [List.mem_cons, List.not_mem_nil, or_false] at hspec
    rcases hspec with rfl | rfl <;> simp
  have hwaiting : (Npdu.ofControl 4).isNetworkMessage = false := rfl
  have hsilent : (Npdu.ofControl 0).isNetworkMessage = false := rfl
  obtain ⟨e, he, -, htaken⟩ := exists_encode_isTaken hname 0 hsilent
  obtain ⟨e', he', -, htaken'⟩ := exists_encode_isTaken hindex 9 hwaiting
  cases he
  cases he'
  exact ⟨htaken, htaken'⟩

end Request

end Bacnet
