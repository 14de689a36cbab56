import Bacnet.Proofs.Addressing

set_option autoImplicit false

/-! # Answers for one requester

An acknowledgement, an error and a reject are meant for the one who asked, whatever the
configuration says of announcements: the frame is no broadcast and goes to where the datagram came
from. The network layer is another matter. The header of an answer is addressed to whatever the
request names as its source, and a request may name all stations of a network there, or all
networks. So an answer is for one station just if the request came from one, and whoever sends a
request can have its answer broadcast. -/

namespace Bacnet

/-! ## Who is addressed -/

/-- Whether an address names one station, and neither all stations of a network nor all networks. -/
def NetworkAddress.IsStation (a : NetworkAddress) : Prop :=
  1 ≤ a.mac.length ∧ a.network ≠ globalNetwork

instance (a : NetworkAddress) : Decidable a.IsStation :=
  inferInstanceAs (Decidable (1 ≤ a.mac.length ∧ a.network ≠ NetworkAddress.globalNetwork))

/-- Whether a message is for one station as far as its header says: it has no address, or that of
    one station. -/
def NamesStation (address : Option NetworkAddress) : Prop :=
  address = none ∨ ∃ a, address = some a ∧ a.IsStation

/-! ## Answers and announcements -/

/-- The types of APDU that answer one requester: acknowledgements, errors and rejects. -/
def PduType.answers : List PduType := [simpleAck, complexAck, error, reject]

/-- Whether an APDU is of a type that answers one requester. -/
def IsAnswer (apdu : Octets) : Prop :=
  ∃ t ∈ PduType.answers, apdu.head?.bind PduType.ofFirstOctet? = some t

instance (apdu : Octets) : Decidable (IsAnswer apdu) :=
  inferInstanceAs
    (Decidable (∃ t ∈ PduType.answers, apdu.head?.bind PduType.ofFirstOctet? = some t))

/-- An announcement is a request that nobody answers. -/
theorem IsAnnouncement.type_eq {apdu : Octets} (h : IsAnnouncement apdu) :
    apdu.head?.bind PduType.ofFirstOctet? = some .unconfirmedRequest := by
  have hread : ∀ {α : Type} {service : UInt8} {body : Decode α} {a : α},
      (UnconfirmedHeader.decodeWith service body).outcome apdu = .ok a →
        apdu.head?.bind PduType.ofFirstOctet? = some .unconfirmedRequest := by
    intro α service body a ha
    obtain ⟨r, ha⟩ := Decode.outcome_eq_ok_iff.1 ha
    unfold UnconfirmedHeader.decodeWith at ha
    obtain ⟨service', r₁, hservice, -⟩ := Decode.bind_eq_ok.1 ha
    obtain ⟨first, hunread, -, hnumber⟩ := UnconfirmedHeader.exists_octets_of_decode hservice
    have hapdu : apdu = first :: service' :: r₁.unread := hunread
    rw [hapdu, List.head?_cons, Option.bind_some, PduType.ofFirstOctet?, hnumber]
    rfl
  rcases h with ⟨a, ha⟩ | ⟨a, ha⟩
  · exact hread ha
  · exact hread ha

theorem IsAnswer.not_isAnnouncement {apdu : Octets} (h : IsAnswer apdu) :
    ¬ IsAnnouncement apdu := by
  obtain ⟨t, ht, htype⟩ := h
  intro hannouncement
  rw [hannouncement.type_eq] at htype
  obtain rfl := Option.some.inj htype
  exact absurd ht (by decide)

/-! ## Where answers go -/

namespace Outgoing.IsAddressed

variable {out : Outgoing} {config : Config} {request header : Npdu} {source : Endpoint}
  {npdu answer : Octets} (h : out.IsAddressed config request source npdu header answer)

include h

/-- Only an announcement is broadcast. -/
theorem broadcast_eq_false (hanswer : IsAnswer answer) : out.broadcast = false := by
  rw [← Bool.not_eq_true, h.broadcast_iff]
  rintro ⟨hannouncement, -⟩
  exact hanswer.not_isAnnouncement hannouncement

/-- The header is addressed to whatever the request names as its source. -/
theorem destination_eq (hunicast : out.broadcast = false) :
    header.destination = request.source := by
  cases hsource : request.source with
  | none => rw [h.header_local hunicast hsource]
  | some a => rw [h.header_routed a hunicast hsource]

end Outgoing.IsAddressed

namespace Responder

variable {r : Responder} {datagram : Octets} {source : Endpoint} {out : Outgoing}

/-- An acknowledgement, an error or a reject goes back in a unicast frame to where the datagram
    came from. Its header names nothing but one station just if the request did so. -/
theorem process_answer_iff (h : r.process datagram source = some out) :
    ∃ request body frame header answer, Carries datagram request body ∧
      BvllFrame.ofDatagram out.frame = .ok frame ∧
      decodeMessage.outcome frame.npdu = .ok (header, answer) ∧
      (IsAnswer answer → frame.function = .originalUnicastNpdu ∧ out.broadcast = false ∧
        out.destination = source ∧ header.destination = request.source ∧
        (NamesStation header.destination ↔ NamesStation request.source)) := by
  obtain ⟨request, body, hcarries⟩ := exists_carries_of_process h
  obtain ⟨e, he, hfault, hfits, rfl⟩ := hcarries.process_eq_some_iff.1 h
  have haddressed : Outgoing.IsAddressed _ r.config request source _ _ e.octets :=
    Reply.isAddressed_sent hcarries.wellFormed he hfault hfits
  refine ⟨request, body, _, _, e.octets, hcarries, haddressed.frame, haddressed.message, ?_⟩
  intro hanswer
  have hunicast := haddressed.broadcast_eq_false hanswer
  have hdestination := haddressed.destination_eq hunicast
  refine ⟨?_, hunicast, ?_, hdestination, ?_⟩
  · rw [hunicast]
    rfl
  · rw [haddressed.destination, hunicast]
    rfl
  · rw [hdestination]

/-- A station behind a router asks for the name of a device, which is sent to that station only. -/
theorem process_answer_iff_routed : ∃ (r : Responder) (out : Outgoing) (header : Npdu)
    (answer : Octets),
    r.process [0x81, 0x0A, 0, 22, 1, 8, 0, 7, 2, 0xAA, 0xBB, 0, 5, 1, 12, 0x0C, 2, 0, 0, 1, 0x19,
      77] ⟨.v4 10 0 0 1, 47808, 0⟩ = some out ∧
    Carries out.frame header answer ∧ IsAnswer answer ∧ out.broadcast = false ∧
    NamesStation header.destination := by
  let r : Responder := ⟨.bare, {}⟩
  let datagram : Octets := [0x81, 0x0A, 0, 22, 1, 8, 0, 7, 2, 0xAA, 0xBB, 0, 5, 1, 12, 0x0C, 2, 0,
    0, 1, 0x19, 77]
  have hsome : (r.process datagram ⟨.v4 10 0 0 1, 47808, 0⟩).any (fun out =>
      (BvllFrame.ofDatagram out.frame).toOption.any fun frame =>
        (decodeMessage.outcome frame.npdu).toOption.any (decide <| IsAnswer ·.2)) = true := by
    decide +kernel
  obtain ⟨out, hout, hsome⟩ := (Option.any_eq_true _ _).1 hsome
  obtain ⟨frame', hframe', hsome⟩ := (Option.any_eq_true _ _).1 hsome
  obtain ⟨⟨header', answer'⟩, hmessage', hsome⟩ := (Option.any_eq_true _ _).1 hsome
  obtain ⟨request, body, frame, header, answer, ⟨carrier, hcarrier, hrequest⟩, hframe, hmessage,
    hcases⟩ := process_answer_iff hout
  -- What the datagram carries and what is sent are read in one way only.
  have hsame := hframe.symm.trans (Decode.eq_ok_of_toOption hframe')
  obtain rfl := Except.ok.inj hsame
  have hread := hmessage.symm.trans (Decode.eq_ok_of_toOption hmessage')
  obtain ⟨rfl, rfl⟩ := Prod.mk.inj (Except.ok.inj hread)
  have hsource : request.source = some ⟨7, [0xAA, 0xBB]⟩ := by
    cases hcarrier
    cases hrequest
    rfl
  have hanswer : IsAnswer answer := of_decide_eq_true hsome
  obtain ⟨-, hunicast, -, -, hiff⟩ := hcases hanswer
  refine ⟨r, out, header, answer, hout, ⟨frame, hframe, hmessage⟩, hanswer, hunicast, ?_⟩
  exact hiff.2 (.inr ⟨_, hsource, by decide⟩)

/-- A request that says that it comes from all stations of all networks is answered to them: what
    only its sender asked for is told everyone. -/
theorem not_forall_answer_namesStation : ¬ ∀ (r : Responder) (datagram : Octets)
    (source : Endpoint) (out : Outgoing) (header : Npdu) (answer : Octets),
    r.process datagram source = some out → Carries out.frame header answer → IsAnswer answer →
      NamesStation header.destination := by
  intro hall
  let r : Responder := ⟨.bare, {}⟩
  let datagram : Octets := [0x81, 0x0A, 0, 20, 1, 8, 0xFF, 0xFF, 0, 0, 5, 1, 12, 0x0C, 2, 0, 0, 1,
    0x19, 77]
  have hsome : (r.process datagram ⟨.v4 10 0 0 1, 47808, 0⟩).any (fun out =>
      (BvllFrame.ofDatagram out.frame).toOption.any fun frame =>
        (decodeMessage.outcome frame.npdu).toOption.any fun message =>
          decide (IsAnswer message.2) &&
            message.1.destination == some (.broadcast NetworkAddress.globalNetwork)) = true := by
    decide +kernel
  obtain ⟨out, hout, hsome⟩ := (Option.any_eq_true _ _).1 hsome
  obtain ⟨frame, hframe, hsome⟩ := (Option.any_eq_true _ _).1 hsome
  obtain ⟨⟨header, answer⟩, hmessage, hsome⟩ := (Option.any_eq_true _ _).1 hsome
  obtain ⟨hanswer, hdestination⟩ := Bool.and_eq_true_iff.1 hsome
  have hcarries : Carries out.frame header answer :=
    ⟨frame, Decode.eq_ok_of_toOption hframe, Decode.eq_ok_of_toOption hmessage⟩
  have hnames := hall r datagram _ out header answer hout hcarries (of_decide_eq_true hanswer)
  rw [beq_iff_eq.1 hdestination] at hnames
  rcases hnames with hnone | ⟨a, ha, hstation⟩
  · cases hnone
  · cases ha
    exact absurd hstation (by decide)

end Responder

end Bacnet
