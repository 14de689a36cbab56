import Bacnet.Proofs.Service.Discovery
import Bacnet.Proofs.Service.ReadPropertyMultiple
import Bacnet.Request

set_option autoImplicit false

/-! # Requests read back

The questions for properties survive the way into an indication: a confirmed header in one segment
with the body of a question behind it is taken for exactly that question. Messages of any other type
than a request ask for nothing, and what does ask is a whole request (`cases_of_ofApdu?`). -/

namespace Bacnet

/-! ## Requests for properties -/

namespace Request

/-- The number of the service of a request. -/
def service : Request → UInt8
  | whoIs _ => WhoIs.service
  | whoHas _ => WhoHas.service
  | readProperty _ => ReadProperty.service
  | readPropertyMultiple _ => ReadPropertyMultiple.service
  | unsupported service => service

/-- Whether a request is of a confirmed service. -/
def IsConfirmed : Request → Prop
  | whoIs _ | whoHas _ => False
  | _ => True

/-- What the body of a confirmed request is taken for: for a service that is known all of it, and
    for any other nothing. -/
theorem cases_of_decodeConfirmed {number : UInt8} {position : Nat} {body : Octets}
    {request : Request} {r : Reader} (h : decodeConfirmed number ⟨position, body⟩ = .ok request r) :
    (∃ q, number = ReadProperty.service ∧ request = readProperty q ∧
      ReadProperty.decodeBody.TakesAll position body q) ∨
    (∃ q, number = ReadPropertyMultiple.service ∧ request = readPropertyMultiple q ∧
      ReadPropertyMultiple.decodeBody.TakesAll position body q) ∨
    (number ≠ ReadProperty.service ∧ number ≠ ReadPropertyMultiple.service ∧
      request = unsupported number) := by
  unfold decodeConfirmed at h
  by_cases hsingle : number = ReadProperty.service
  · rw [if_pos hsingle] at h
    obtain ⟨q, hq, rfl⟩ := Decode.map_eq_ok.1 h
    exact .inl ⟨q, hsingle, rfl,
      Decode.takesAll_of_unread hq (ReadProperty.unread_eq_nil_of_decodeBody hq)⟩
  rw [if_neg hsingle] at h
  by_cases hmultiple : number = ReadPropertyMultiple.service
  · rw [if_pos hmultiple] at h
    obtain ⟨q, hq, rfl⟩ := Decode.map_eq_ok.1 h
    exact .inr (.inl ⟨q, hmultiple, rfl,
      Decode.takesAll_of_unread hq (ReadPropertyMultiple.unread_eq_nil_of_decodeBody hq)⟩)
  · rw [if_neg hmultiple] at h
    cases h
    exact .inr (.inr ⟨hsingle, hmultiple, rfl⟩)

/-- What the body of an unconfirmed request is taken for. -/
theorem cases_of_decodeUnconfirmed {number : UInt8} {position : Nat} {body : Octets}
    {request : Request} {r : Reader}
    (h : decodeUnconfirmed number ⟨position, body⟩ = .ok request r) :
    (∃ q, number = WhoHas.service ∧ request = whoHas q ∧
      WhoHas.decodeBody.TakesAll position body q) ∨
    (∃ q, number = WhoIs.service ∧ request = whoIs q ∧
      WhoIs.decodeBody.TakesAll position body q) ∨ request = unsupported number := by
  unfold decodeUnconfirmed at h
  by_cases hwhoHas : number = WhoHas.service
  · rw [if_pos hwhoHas] at h
    obtain ⟨q, hq, rfl⟩ := Decode.map_eq_ok.1 h
    exact .inl ⟨q, hwhoHas, rfl,
      Decode.takesAll_of_unread hq (WhoHas.unread_eq_nil_of_decodeBody hq)⟩
  rw [if_neg hwhoHas] at h
  by_cases hwhoIs : number = WhoIs.service
  · rw [if_pos hwhoIs] at h
    obtain ⟨q, hq, rfl⟩ := Decode.map_eq_ok.1 h
    exact .inr (.inl ⟨q, hwhoIs, rfl,
      Decode.takesAll_of_unread hq (WhoIs.unread_eq_nil_of_decodeBody hq)⟩)
  · rw [if_neg hwhoIs] at h
    cases h
    exact .inr (.inr rfl)

theorem isConfirmed_of_decodeConfirmed {number : UInt8} {request : Request} {r r' : Reader}
    (h : decodeConfirmed number r = .ok request r') : request.IsConfirmed := by
  rcases cases_of_decodeConfirmed h with ⟨q, -, rfl, -⟩ | ⟨q, -, rfl, -⟩ | ⟨-, -, rfl⟩ <;> trivial

/-- Whether a request is a question for properties, and asks for something. -/
def AsksProperties : Request → Prop
  | readProperty _ => True
  | readPropertyMultiple q => q.Asks
  | _ => False

/-- What is behind the header of a question for properties. -/
def encodeBody : Request → Encoding
  | readProperty q => q.encodeReference
  | readPropertyMultiple q => q.encodeBody
  | _ => .empty

theorem reads_decodeConfirmed {request : Request} (h : request.AsksProperties) :
    (decodeConfirmed request.service).Reads request.encodeBody.octets request [] := by
  cases request with
  | readProperty q =>
      show (decodeConfirmed ReadProperty.service).Reads q.encodeReference.octets _ []
      rw [decodeConfirmed, if_pos rfl]
      exact q.reads_decodeBody.map readProperty
  | readPropertyMultiple q =>
      show (decodeConfirmed ReadPropertyMultiple.service).Reads q.encodeBody.octets _ []
      rw [decodeConfirmed, if_neg (by decide), if_pos rfl]
      exact (ReadPropertyMultiple.reads_decodeBody h).map readPropertyMultiple
  | _ => exact h.elim

end Request

/-! ## Indications -/

namespace MessageKind

variable {header : Npdu} (h : header.isNetworkMessage = false)

include h

theorem of_firstOctet (t : PduType) (flags : UInt8) (rest : Octets) :
    MessageKind.of header (t.firstOctet flags :: rest) = .pdu t := by
  simp [MessageKind.of, h]

theorem of_confirmed (confirmed : ConfirmedHeader) (body : Octets) :
    MessageKind.of header (confirmed.encode.octets ++ body) = .pdu .confirmedRequest := by
  rw [ConfirmedHeader.octets_encode, List.cons_append]
  exact of_firstOctet h ..

theorem of_unconfirmed (service : UInt8) (body : Octets) :
    MessageKind.of header ((UnconfirmedHeader.encode service).octets ++ body)
      = .pdu .unconfirmedRequest := by
  rw [UnconfirmedHeader.octets_encode]
  exact of_firstOctet h ..

end MessageKind

namespace Indication

variable {header : Npdu}

/-- A question for properties behind a confirmed header in one segment is taken as it was asked. -/
theorem ofApdu?_eq_some (h : header.isNetworkMessage = false) {confirmed : ConfirmedHeader}
    (hsegment : confirmed.segment = none) (hsize : confirmed.maxApdu < 16) {request : Request}
    (hasks : request.AsksProperties) (hservice : confirmed.service = request.service) :
    ofApdu? header (confirmed.encode.octets ++ request.encodeBody.octets)
      = some ⟨some ⟨confirmed.invokeId, confirmed.maxApduOctets⟩, request⟩ := by
  have hread : decodeConfirmed.Reads (confirmed.encode.octets ++ request.encodeBody.octets)
      ⟨some ⟨confirmed.invokeId, confirmed.maxApduOctets⟩, request⟩ [] := by
    unfold decodeConfirmed
    refine (confirmed.reads_decode _).bind ?_
    rw [if_neg (by simp [ConfirmedHeader.isSegmented, hsegment])]
    simp only [ConfirmedHeader.maxApduOctets, Octets.and_fifteen_of_lt hsize, hservice]
    exact (Request.reads_decodeConfirmed hasks).bind_pure _
  rw [ofApdu?, MessageKind.of_confirmed h]
  simp only [hread.outcome]
  rfl

/-- A confirmed request names the size of its answer in the second octet: another one asks for the
    same, of the same requester, with another size. -/
theorem ofApdu?_confirmed {first sizes : UInt8} {rest : Octets} {indication : Indication}
    (hfirst : PduType.ofFirstOctet? first = some .confirmedRequest)
    (h : ofApdu? header (first :: sizes :: rest) = some indication) :
    ∃ invokeId, indication.request.IsConfirmed ∧ ∀ sizes', ∃ confirmed : ConfirmedHeader,
      confirmed.maxApdu = sizes' &&& 15 ∧ ofApdu? header (first :: sizes' :: rest)
        = some ⟨some ⟨invokeId, confirmed.maxApduOctets⟩, indication.request⟩ := by
  have hheader : header.isNetworkMessage = false := by
    cases hn : header.isNetworkMessage with
    | false => rfl
    | true => simp [ofApdu?, MessageKind.of, hn] at h
  -- The first octet alone decides that the message is a confirmed request.
  have hkind : ∀ tail, ofApdu? header (first :: tail)
      = (decodeConfirmed.outcome (first :: tail)).toOption := by
    intro tail
    simp [ofApdu?, MessageKind.of, hheader, hfirst]
  rw [hkind] at h
  obtain ⟨r, h⟩ := Decode.outcome_eq_ok_iff.1 (Decode.eq_ok_of_toOption h)
  unfold decodeConfirmed at h
  obtain ⟨confirmed, r₁, hconfirmed, h⟩ := Decode.bind_eq_ok.1 h
  obtain ⟨hsegmented, h⟩ := Decode.of_guard_eq_ok h
  obtain ⟨request, r₂, hrequest, h⟩ := Decode.bind_eq_ok.1 h
  cases h
  refine ⟨confirmed.invokeId, Request.isConfirmed_of_decodeConfirmed hrequest, fun sizes' => ?_⟩
  refine ⟨{ confirmed with maxSegments := (sizes' >>> 4) &&& 7, maxApdu := sizes' &&& 15 }, rfl, ?_⟩
  rw [hkind, Decode.outcome_eq_ok_iff.2 ⟨r, ?_⟩]
  · rfl
  · unfold decodeConfirmed
    refine Decode.bind_eq_ok.2 ⟨_, r₁, ConfirmedHeader.decode_cons hconfirmed sizes', ?_⟩
    refine (congrFun (if_neg ?_) r₁).trans (Decode.bind_eq_ok.2 ⟨request, r, hrequest, rfl⟩)
    exact hsegmented

/-- A message that makes a request is a confirmed request in one segment or an unconfirmed request,
    with a body of the service that its header names. -/
theorem cases_of_ofApdu? {apdu : Octets} {indication : Indication}
    (h : ofApdu? header apdu = some indication) : header.isNetworkMessage = false ∧
      ((∃ first sizes invokeId service body size r,
        apdu = first :: sizes :: invokeId :: service :: body ∧ first >>> 4 = 0 ∧
        first &&& segmentedFlag = 0 ∧ indication.requester = some ⟨invokeId, size⟩ ∧
        Request.decodeConfirmed service ⟨4, body⟩ = .ok indication.request r) ∨
      ∃ first service body r, apdu = first :: service :: body ∧ first >>> 4 = 1 ∧
        indication.requester = none ∧
        Request.decodeUnconfirmed service ⟨2, body⟩ = .ok indication.request r) := by
  unfold ofApdu? at h
  have hnetwork : ∀ t, MessageKind.of header apdu = .pdu t → header.isNetworkMessage = false := by
    intro t ht
    cases hmessage : header.isNetworkMessage with
    | false => rfl
    | true => simp [MessageKind.of, hmessage] at ht
  split at h
  · next hkind =>
      refine ⟨hnetwork _ hkind, .inl ?_⟩
      obtain ⟨r, h⟩ := Decode.outcome_eq_ok_iff.1 (Decode.eq_ok_of_toOption h)
      unfold decodeConfirmed at h
      obtain ⟨confirmed, ⟨position, body⟩, hconfirmed, h⟩ := Decode.bind_eq_ok.1 h
      obtain ⟨hsegmented, h⟩ := Decode.of_guard_eq_ok h
      obtain ⟨request, r₁, hrequest, h⟩ := Decode.bind_eq_ok.1 h
      cases h
      have hsegment : confirmed.segment = none := by
        simpa [ConfirmedHeader.isSegmented] using hsegmented
      obtain ⟨first, sizes, happdu, hposition, hnumber, hflag⟩ :=
        ConfirmedHeader.exists_octets_of_decode hconfirmed hsegment
      cases hposition
      exact ⟨first, sizes, _, _, body, _, _, happdu, hnumber, hflag, rfl, hrequest⟩
  · next hkind =>
      refine ⟨hnetwork _ hkind, .inr ?_⟩
      obtain ⟨r, h⟩ := Decode.outcome_eq_ok_iff.1 (Decode.eq_ok_of_toOption h)
      unfold decodeUnconfirmed at h
      obtain ⟨service, ⟨position, body⟩, hservice, h⟩ := Decode.bind_eq_ok.1 h
      obtain ⟨request, r₁, hrequest, h⟩ := Decode.bind_eq_ok.1 h
      cases h
      obtain ⟨first, happdu, hposition, hnumber⟩ :=
        UnconfirmedHeader.exists_octets_of_decode hservice
      cases hposition
      exact ⟨first, service, body, _, happdu, hnumber, rfl, hrequest⟩
  · cases h

/-- A message that is no request asks for nothing. -/
theorem ofApdu?_firstOctet_eq_none (h : header.isNetworkMessage = false) {t : PduType}
    (hconfirmed : t ≠ .confirmedRequest) (hunconfirmed : t ≠ .unconfirmedRequest) (flags : UInt8)
    (rest : Octets) : ofApdu? header (t.firstOctet flags :: rest) = none := by
  rw [ofApdu?, MessageKind.of_firstOctet h]
  cases t with
  | confirmedRequest => exact absurd rfl hconfirmed
  | unconfirmedRequest => exact absurd rfl hunconfirmed
  | _ => rfl

/-- A body that is read as a request is taken for it behind the header of its service. -/
theorem ofApdu?_of_reads (h : header.isNetworkMessage = false) {service : UInt8}
    {body rest : Octets} {request : Request}
    (hread : (Request.decodeUnconfirmed service).Reads body request rest) :
    ofApdu? header ((UnconfirmedHeader.encode service).octets ++ (body ++ rest))
      = some ⟨none, request⟩ := by
  have hwhole : decodeUnconfirmed.Reads ((UnconfirmedHeader.encode service).octets ++ body)
      ⟨none, request⟩ rest := by
    unfold decodeUnconfirmed
    exact (UnconfirmedHeader.reads_decode service _).bind (hread.bind_pure _)
  rw [ofApdu?, MessageKind.of_unconfirmed h, ← List.append_assoc]
  simp only [hwhole.outcome_append]
  rfl

/-- An announcement is taken for a request that nobody waits for, of a service that is not known. -/
theorem ofApdu?_unconfirmed (h : header.isNetworkMessage = false) {service : UInt8}
    (hwhoHas : service ≠ WhoHas.service) (hwhoIs : service ≠ WhoIs.service) (rest : Octets) :
    ofApdu? header ((UnconfirmedHeader.encode service).octets ++ rest)
      = some ⟨none, .unsupported service⟩ := by
  have hread : (Request.decodeUnconfirmed service).Reads [] (.unsupported service) rest := by
    rw [Request.decodeUnconfirmed, if_neg hwhoHas, if_neg hwhoIs]
    exact .pure _ rest
  have htaken := ofApdu?_of_reads h hread
  rwa [List.nil_append] at htaken

end Indication

end Bacnet
