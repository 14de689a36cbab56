import Bacnet.Proofs.EndToEnd

set_option autoImplicit false

/-! # The size limit

A reply is written whole or not at all: what it writes does not depend on the room, and it is
dropped exactly when that exceeds the limit. Only an acknowledgement is given the limit of its
requester, but errors and rejects are shorter than the least of them. So a requester that takes more
gets the answers of one that takes less, octet for octet. -/

namespace Bacnet

namespace Reply

/-- Whether a reply is an acknowledgement. -/
def isAck : Reply → Bool
  | readPropertyAck .. | readPropertyMultipleAck .. => true
  | _ => false

/-- A reply is sent, in a frame around just its APDU, or dropped if that exceeds a limit. -/
def IsSentWithin (reply : Reply) (config : Config) (request : Npdu) (source : Endpoint)
    (limit : Nat) : Prop :=
  ∃ e, reply.encode? = some e ∧
    (∀ capacity, e.octets.length ≤ capacity → e.within capacity = .ok e.octets) ∧
    if e.octets.length ≤ limit then
      ∃ out, reply.outgoing config request source = .ok (some out) ∧
        Responder.Carries out.frame (header out.broadcast request) e.octets
    else reply.outgoing config request source = .ok none

variable {reply : Reply} {config : Config} {request : Npdu} {source : Endpoint}

theorem Sendable.isSentWithin (h : reply.Sendable) (hreply : reply ≠ .silence)
    (hrequest : request.WellFormed) : reply.IsSentWithin config request source reply.limit := by
  have hencode : ∃ e, reply.encode? = some e := by
    cases reply with
    | silence => exact absurd rfl hreply
    | _ => exact ⟨_, rfl⟩
  obtain ⟨e, he⟩ := hencode
  have hfault := h.fault_encode he
  refine ⟨e, he, fun capacity hcapacity => ?_, ?_⟩
  · exact Encoding.within_eq_ok_iff.2 ⟨hfault, hcapacity, rfl⟩
  rw [outgoing_eq hrequest he hfault]
  show if e.size ≤ reply.limit then _ else _
  by_cases hfits : e.size ≤ reply.limit
  · rw [if_pos hfits, if_pos hfits]
    exact ⟨_, rfl, carries_sent reply config source hrequest (Nat.le_trans hfits reply.limit_le)⟩
  · rw [if_neg hfits, if_neg hfits]

end Reply

namespace Device

variable (d : Device) (config : Config)

/-! ## Confirmed requests -/

/-- What there is to say to a confirmed request, whoever the requester is. -/
theorem confirmed_reply_cases {request : Request} (h : request.IsConfirmed) :
    (∀ requester, d.reply config ⟨some requester, request⟩ = .silence) ∨
    (∃ reason, ∀ requester,
      d.reply config ⟨some requester, request⟩ = .reject ⟨requester.invokeId, reason⟩) ∨
    (∃ service errorClass errorCode, ∀ requester, d.reply config ⟨some requester, request⟩
      = .error ⟨requester.invokeId, service, errorClass, errorCode⟩) ∨
    (∃ name a, ∀ requester,
      d.reply config ⟨some requester, request⟩ = .readPropertyAck requester name a) ∨
    ∃ a, ∀ requester,
      d.reply config ⟨some requester, request⟩ = .readPropertyMultipleAck requester a := by
  cases request with
  | whoIs q => exact h.elim
  | whoHas q => exact h.elim
  | readProperty q =>
      simp only [reply, replyToReadProperty]
      cases d.find? q.objectId with
      | none => exact .inr (.inr (.inl ⟨_, _, _, fun _ => rfl⟩))
      | some target =>
          simp only
          cases target.readOrEmpty q.property q.index with
          | ok value => exact .inr (.inr (.inr (.inl ⟨_, _, fun _ => rfl⟩)))
          | error e => exact .inr (.inr (.inl ⟨_, _, _, fun _ => rfl⟩))
  | readPropertyMultiple q => exact .inr (.inr (.inr (.inr ⟨_, fun _ => rfl⟩)))
  | unsupported service =>
      cases hreject : config.rejectUnrecognized with
      | true => exact .inr (.inl ⟨_, fun requester => by simp only [reply, hreject]; rfl⟩)
      | false => exact .inl fun requester => by simp [reply, hreject]

/-- What is said to a request does not depend on the size that its requester takes, and the larger
    that is, the larger it may be. -/
theorem reply_resize {request : Request} (h : request.IsConfirmed) {size size' : Nat}
    (hle : size ≤ size') (invokeId : UInt8) :
    (d.reply config ⟨some ⟨invokeId, size⟩, request⟩).encode?
        = (d.reply config ⟨some ⟨invokeId, size'⟩, request⟩).encode? ∧
      (d.reply config ⟨some ⟨invokeId, size⟩, request⟩).isDiscovery
        = (d.reply config ⟨some ⟨invokeId, size'⟩, request⟩).isDiscovery ∧
      (d.reply config ⟨some ⟨invokeId, size⟩, request⟩).limit
        ≤ (d.reply config ⟨some ⟨invokeId, size'⟩, request⟩).limit := by
  have hmin : min size Reply.maxApdu ≤ min size' Reply.maxApdu := by omega
  rcases d.confirmed_reply_cases config h with hr | ⟨_, hr⟩ | ⟨_, _, _, hr⟩ | ⟨_, _, hr⟩ | ⟨_, hr⟩
  all_goals rw [hr, hr]
  · exact ⟨rfl, rfl, Nat.le_refl _⟩
  · exact ⟨rfl, rfl, Nat.le_refl _⟩
  · exact ⟨rfl, rfl, Nat.le_refl _⟩
  · exact ⟨rfl, rfl, hmin⟩
  · exact ⟨rfl, rfl, hmin⟩

/-- Whatever is said to a confirmed request fits the size that its requester takes. -/
theorem size_reply_le {requester : Requester} {request : Request} (h : request.IsConfirmed)
    (hleast : 50 ≤ requester.maxApdu) {e : Encoding}
    (he : (d.reply config ⟨some requester, request⟩).encode? = some e)
    (hfits : e.size ≤ (d.reply config ⟨some requester, request⟩).limit) :
    e.size ≤ requester.maxApdu := by
  rcases d.confirmed_reply_cases config h with hr | ⟨_, hr⟩ | ⟨_, _, _, hr⟩ | ⟨_, _, hr⟩ | ⟨_, hr⟩
  all_goals rw [hr] at he hfits
  · cases he
  -- Errors and rejects are not held to the size that is taken; they are short in themselves.
  · cases he
    exact Nat.le_trans (RejectPdu.size_encode_le _) hleast
  · cases he
    exact Nat.le_trans (ErrorPdu.size_encode_le _) hleast
  · exact Nat.le_trans hfits (Nat.min_le_left ..)
  · exact Nat.le_trans hfits (Nat.min_le_left ..)

/-! ## All requests -/

/-- Only an acknowledgement is given the size that the requester takes. -/
theorem limit_reply (indication : Indication) : (d.reply config indication).limit =
    if (d.reply config indication).isAck then
      min (indication.requester.elim 0 (·.maxApdu)) Reply.maxApdu
    else Reply.maxApdu := by
  obtain ⟨requester, request⟩ := indication
  have hconfirmed : ∀ requester, request.IsConfirmed →
      (d.reply config ⟨some requester, request⟩).limit =
        if (d.reply config ⟨some requester, request⟩).isAck then min requester.maxApdu Reply.maxApdu
        else Reply.maxApdu := by
    intro requester h
    rcases d.confirmed_reply_cases config h
      with hr | ⟨_, hr⟩ | ⟨_, _, _, hr⟩ | ⟨_, _, hr⟩ | ⟨_, hr⟩ <;> rw [hr] <;> rfl
  cases request with
  | whoIs q =>
      show (d.replyToWhoIs q).limit = if (d.replyToWhoIs q).isAck then _ else _
      unfold replyToWhoIs
      split <;> rfl
  | whoHas q =>
      show (d.replyToWhoHas q).limit = if (d.replyToWhoHas q).isAck then _ else _
      unfold replyToWhoHas
      split
      · cases d.owned? q.wanted <;> rfl
      · rfl
  | _ =>
      cases requester with
      | none => rfl
      | some requester => exact hconfirmed requester trivial

end Device

/-! ## Answers -/

namespace Responder

variable {d : Device} {config : Config} {source : Endpoint} {header : Npdu} {first sizes : UInt8}
  {rest datagram : Octets} {out : Outgoing}

/-- The size of answer that the second octet of a confirmed request names; the reserved codes stand
    for the least. -/
def requestedSize (sizes : UInt8) : Nat :=
  [50, 128, 206, 480, 1024, 1476].getD (sizes &&& 15).toNat 50

/-- A confirmed request is one of a requester that takes the size in the second octet, and with
    another size there it is the same request of the same requester with that size. -/
theorem ofApdu?_requestedSize {indication : Indication}
    (hfirst : PduType.ofFirstOctet? first = some .confirmedRequest)
    (h : Indication.ofApdu? header (first :: sizes :: rest) = some indication) :
    ∃ invokeId, indication.request.IsConfirmed ∧
      indication.requester = some ⟨invokeId, requestedSize sizes⟩ ∧ ∀ sizes',
        50 ≤ requestedSize sizes' ∧ Indication.ofApdu? header (first :: sizes' :: rest)
          = some ⟨some ⟨invokeId, requestedSize sizes'⟩, indication.request⟩ := by
  obtain ⟨invokeId, hconfirmed, hall⟩ := Indication.ofApdu?_confirmed hfirst h
  have hsizes : ∀ sizes', 50 ≤ requestedSize sizes' ∧
      Indication.ofApdu? header (first :: sizes' :: rest)
        = some ⟨some ⟨invokeId, requestedSize sizes'⟩, indication.request⟩ := by
    intro sizes'
    obtain ⟨confirmed, hmaxApdu, hofApdu⟩ := hall sizes'
    have hsize : confirmed.maxApduOctets = requestedSize sizes' := by
      rw [ConfirmedHeader.maxApduOctets_eq, hmaxApdu, requestedSize]
    rw [← hsize]
    exact ⟨confirmed.fifty_le_maxApduOctets, hofApdu⟩
  refine ⟨invokeId, hconfirmed, ?_, hsizes⟩
  have hsame := (hsizes sizes).2
  rw [h] at hsame
  rw [Option.some.inj hsame]

/-- A confirmed request that is answered gets the reply to its requester, and with another size the
    reply to the same requester with that size. -/
theorem exists_reply_of_process
    (hfirst : PduType.ofFirstOctet? first = some .confirmedRequest)
    (hdatagram : Carries datagram header (first :: sizes :: rest))
    (h : process ⟨d, config⟩ datagram source = some out) :
    ∃ invokeId request, request.IsConfirmed ∧ ∀ sizes',
      50 ≤ requestedSize sizes' ∧ d.replyToApdu config header (first :: sizes' :: rest)
        = d.reply config ⟨some ⟨invokeId, requestedSize sizes'⟩, request⟩ := by
  obtain ⟨e, he, -⟩ := hdatagram.process_eq_some_iff.1 h
  have hindication : ∃ indication,
      Indication.ofApdu? header (first :: sizes :: rest) = some indication := by
    cases hofApdu : Indication.ofApdu? header (first :: sizes :: rest) with
    | none =>
        rw [Device.replyToApdu, hofApdu] at he
        cases he
    | some indication => exact ⟨indication, rfl⟩
  obtain ⟨indication, hindication⟩ := hindication
  obtain ⟨invokeId, hconfirmed, -, hall⟩ := ofApdu?_requestedSize hfirst hindication
  refine ⟨invokeId, indication.request, hconfirmed, fun sizes' => ⟨(hall sizes').1, ?_⟩⟩
  rw [Device.replyToApdu, (hall sizes').2]
  rfl

/-- Whatever answers a confirmed request fits the size that the request names. -/
theorem length_answer_le (hfirst : PduType.ofFirstOctet? first = some .confirmedRequest)
    (hdatagram : Carries datagram header (first :: sizes :: rest))
    (h : process ⟨d, config⟩ datagram source = some out) :
    ∃ header' apdu, Carries out.frame header' apdu ∧ apdu.length ≤ requestedSize sizes := by
  obtain ⟨invokeId, request, hconfirmed, hall⟩ := exists_reply_of_process hfirst hdatagram h
  obtain ⟨e, he, -, hfits, hcarries⟩ := Carries.exists_carries_of_process rfl hdatagram h
  refine ⟨_, e.octets, hcarries, ?_⟩
  simp only [(hall sizes).2] at he hfits
  exact d.size_reply_le config hconfirmed (hall sizes).1 he hfits

/-- A confirmed request with a larger size is answered as the same request with a smaller one. -/
theorem process_resize (hfirst : PduType.ofFirstOctet? first = some .confirmedRequest)
    (hdatagram : Carries datagram header (first :: sizes :: rest)) {datagram' : Octets}
    {sizes' : UInt8} (hdatagram' : Carries datagram' header (first :: sizes' :: rest))
    (hle : requestedSize sizes ≤ requestedSize sizes')
    (h : process ⟨d, config⟩ datagram source = some out) :
    process ⟨d, config⟩ datagram' source = some out := by
  obtain ⟨invokeId, request, hconfirmed, hall⟩ := exists_reply_of_process hfirst hdatagram h
  obtain ⟨hencode, hdiscovery, hlimit⟩ := d.reply_resize config hconfirmed hle invokeId
  obtain ⟨e, he, hfault, hfits, hsent⟩ := hdatagram.process_eq_some_iff.1 h
  simp only [(hall sizes).2] at he hfits hsent
  refine hdatagram'.process_eq_some_iff.2 ⟨e, ?_, hfault, ?_, ?_⟩
  all_goals simp only [(hall sizes').2]
  · rw [← hencode, he]
  · exact Nat.le_trans hfits hlimit
  · rw [← hsent, Reply.sent, Reply.sent, Reply.isBroadcast, Reply.isBroadcast, hdiscovery]

/-- The size limit is exact and monotone. Every reply of a built device is sent, in a frame around
    just its APDU, unless that exceeds the limit, which for an acknowledgement is the size that the
    requester named. Every answer to a confirmed request fits that size, and naming a larger one
    changes nothing of an answer. -/
theorem size_limit {t : Template} {d : Device} (hbuild : t.build = .ok d)
    (hshort : d.StringsShort) (config : Config) (source : Endpoint) :
    (∀ (r r' : Reader) (request : Npdu) (indication : Indication),
      Npdu.decode r = .ok request r' → d.reply config indication ≠ .silence →
        (d.reply config indication).IsSentWithin config request source
          (if (d.reply config indication).isAck then
            min (indication.requester.elim 0 (·.maxApdu)) 1476
          else 1476)) ∧
    ∀ (header : Npdu) (first sizes : UInt8) (rest : Octets),
      PduType.ofFirstOctet? first = some .confirmedRequest →
        (∀ indication, Indication.ofApdu? header (first :: sizes :: rest) = some indication →
          ∃ invokeId, indication.requester = some ⟨invokeId, requestedSize sizes⟩) ∧
        ∀ (datagram : Octets) (out : Outgoing), Carries datagram header (first :: sizes :: rest) →
          process ⟨d, config⟩ datagram source = some out →
            (∃ header' apdu, Carries out.frame header' apdu ∧ apdu.length ≤ requestedSize sizes) ∧
            ∀ (sizes' : UInt8) (datagram' : Octets),
              Carries datagram' header (first :: sizes' :: rest) →
              requestedSize sizes ≤ requestedSize sizes' →
                process ⟨d, config⟩ datagram' source = some out := by
  constructor
  · intro r r' request indication hdecode hreply
    have hsent : (d.reply config indication).IsSentWithin config request source
        (d.reply config indication).limit :=
      ((Template.sendable_of_build hbuild hshort).reply config indication).isSentWithin hreply
        (Npdu.wellFormed_of_decode hdecode)
    rwa [d.limit_reply config indication] at hsent
  · intro header first sizes rest hfirst
    constructor
    · intro indication h
      obtain ⟨invokeId, -, hrequester, -⟩ := ofApdu?_requestedSize hfirst h
      exact ⟨invokeId, hrequester⟩
    · intro datagram out hdatagram h
      refine ⟨length_answer_le hfirst hdatagram h, fun sizes' datagram' hdatagram' hle => ?_⟩
      exact process_resize hfirst hdatagram hdatagram' hle h

/-- The question for the name of a device: the answer fits the least size, and a requester that
    takes all sizes gets the same. -/
theorem size_limit_objectName : ∃ d out, Template.minimal.build = .ok d ∧
    (d.reply {} ⟨none, .whoIs ⟨none⟩⟩).IsSentWithin {} (.ofControl 0) ⟨.v4 10 0 0 1, 47808, 0⟩ 1476 ∧
    process ⟨d, {}⟩ [0x81, 0x0A, 0, 17, 1, 4, 0, 0, 1, 12, 12, 2, 0, 0, 1, 25, 77]
      ⟨.v4 10 0 0 1, 47808, 0⟩ = some out ∧
    (∃ header' apdu, Carries out.frame header' apdu ∧ apdu.length ≤ 50) ∧
    process ⟨d, {}⟩ [0x81, 0x0A, 0, 17, 1, 4, 0, 5, 1, 12, 12, 2, 0, 0, 1, 25, 77]
      ⟨.v4 10 0 0 1, 47808, 0⟩ = some out := by
  obtain ⟨d, hbuild, hshort⟩ := Template.exists_build_minimal
  have hanswered : (Template.minimal.build.toOption.bind fun d => process ⟨d, {}⟩
      [0x81, 0x0A, 0, 17, 1, 4, 0, 0, 1, 12, 12, 2, 0, 0, 1, 25, 77]
      ⟨.v4 10 0 0 1, 47808, 0⟩).isSome = true := by
    decide +kernel
  rw [hbuild] at hanswered
  obtain ⟨out, hout⟩ := Option.isSome_iff_exists.1 hanswered
  obtain ⟨hsent, hconfirmed⟩ := size_limit hbuild hshort {} ⟨.v4 10 0 0 1, 47808, 0⟩
  obtain ⟨-, hanswer⟩ := hconfirmed (.ofControl 4) 0 0 [1, 12, 12, 2, 0, 0, 1, 25, 77] rfl
  obtain ⟨hfits, hlarger⟩ := hanswer _ out ⟨⟨.originalUnicastNpdu, none, _⟩, rfl, rfl⟩ hout
  refine ⟨d, out, hbuild, ?_, hout, hfits, hlarger 5 _ ⟨⟨.originalUnicastNpdu, none, _⟩, rfl, rfl⟩
    (by decide)⟩
  exact hsent ⟨0, [1, 0]⟩ ⟨2, []⟩ _ _ rfl (fun h => nomatch h)

end Responder

end Bacnet
