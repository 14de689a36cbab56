import Bacnet.Proofs.Device
import Bacnet.Proofs.Responder

set_option autoImplicit false

/-! # Where answers go

An answer goes back to the endpoint that the datagram came from, over the routers that its NPDU
names; only announcements may go to everyone. Where a forwarded message is said to come from has no
part in this: nothing behind the frame ever sees it (`process_eq_processNpdu`), so all frames around
one message are answered alike. What is sent is read back layer by layer, and each layer says what
the request and the configuration ask for (`Reply.isAddressed_sent`). -/

namespace Bacnet

namespace Responder

variable {r : Responder} {datagram : Octets} {source : Endpoint} {out : Outgoing}

/-! ## Claimed origins -/

/-- The answer to the message in a frame. -/
def processNpdu (r : Responder) (npdu : Octets) (source : Endpoint) : Option Outgoing := do
  let (header, apdu) ← (decodeMessage.outcome npdu).toOption
  ((r.device.replyToApdu r.config header apdu).outgoing r.config header source).toOption.join

/-- Of a frame only its message is answered. -/
theorem process_eq_processNpdu {frame : BvllFrame} (h : BvllFrame.ofDatagram datagram = .ok frame) :
    r.process datagram source = r.processNpdu frame.npdu source := by
  unfold process
  rw [h]
  rfl

theorem process_octets {frame : BvllFrame} (h : frame.WellFormed) :
    r.process frame.octets source = r.processNpdu frame.npdu source :=
  process_eq_processNpdu h.ofDatagram_octets

/-- Whatever origin a forwarded message claims, it is answered as if nobody had forwarded it: with
    the same datagram to the same endpoint, or with the same silence. -/
theorem process_forwarded (r : Responder) (source : Endpoint) {npdu : Octets}
    (h : 10 + npdu.length ≤ 0xFFFF) :
    ∃ answer : Option Outgoing,
      (∀ (a b c d : UInt8) (port : UInt16), r.process
        (BvllFrame.octets ⟨.forwardedNpdu, some ⟨.v4 a b c d, port, 0⟩, npdu⟩) source = answer) ∧
      r.process (BvllFrame.octets ⟨.originalUnicastNpdu, none, npdu⟩) source = answer ∧
      r.process (BvllFrame.octets ⟨.originalBroadcastNpdu, none, npdu⟩) source = answer ∧
      r.process (BvllFrame.octets ⟨.distributeBroadcastToNetwork, none, npdu⟩) source = answer := by
  have hlength : BvllFrame.headerLength + npdu.length < 0x10000 := by
    rw [BvllFrame.headerLength]
    omega
  refine ⟨r.processNpdu npdu source, ?_, ?_, ?_, ?_⟩
  · intro a b c d port
    exact process_octets (BvllFrame.wellFormed_forwarded a b c d port (Nat.lt_succ_of_le h))
  · exact process_octets (BvllFrame.wellFormed_of_ne_forwarded (by decide) hlength)
  · exact process_octets (BvllFrame.wellFormed_of_ne_forwarded (by decide) hlength)
  · exact process_octets (BvllFrame.wellFormed_of_ne_forwarded (by decide) hlength)

/-- A question which devices there are, forwarded in the name of a stranger, is answered to the
    peer that it came from. -/
theorem process_forwarded_whoIs : ∃ (r : Responder) (out : Outgoing),
    r.process [0x81, 0x04, 0, 14, 203, 0, 113, 9, 0, 53, 1, 0, 0x10, 8]
      ⟨.v4 10 0 0 1, 47808, 0⟩ = some out ∧
    r.process [0x81, 0x0A, 0, 8, 1, 0, 0x10, 8] ⟨.v4 10 0 0 1, 47808, 0⟩ = some out ∧
    out.destination = ⟨.v4 10 0 0 1, 47808, 0⟩ := by
  let r : Responder := ⟨.bare, { addressing := .unicast }⟩
  have hsome : ((r.process [0x81, 0x0A, 0, 8, 1, 0, 0x10, 8] ⟨.v4 10 0 0 1, 47808, 0⟩).map
      (·.destination)) = some ⟨.v4 10 0 0 1, 47808, 0⟩ := by
    decide +kernel
  obtain ⟨out, hout, hdestination⟩ := Option.map_eq_some_iff.1 hsome
  have hlength : 10 + List.length [1, 0, 0x10, (8 : UInt8)] ≤ 0xFFFF := by decide
  obtain ⟨answer, hforwarded, hunicast, -⟩ := process_forwarded r ⟨.v4 10 0 0 1, 47808, 0⟩ hlength
  have hanswer : answer = some out := hunicast.symm.trans hout
  exact ⟨r, out, (hforwarded 203 0 113 9 53).trans hanswer, hout, hdestination⟩

end Responder

/-! ## What is sent -/

/-- The written form of a reply is an announcement just if the reply is of interest to everyone. -/
theorem Reply.isAnnouncement_iff {reply : Reply} {e : Encoding} (he : reply.encode? = some e)
    (hfault : e.fault = none) : IsAnnouncement e.octets ↔ reply.isDiscovery = true := by
  cases hdiscovery : reply.isDiscovery with
  | false =>
      obtain ⟨t, rest, -, ht, hoctets⟩ := exists_firstOctet_of_encode? he hdiscovery
      rw [hoctets]
      exact iff_of_false (not_isAnnouncement_firstOctet ht 0 rest) Bool.false_ne_true
  | true =>
      refine iff_of_true ?_ rfl
      cases reply with
      | iAm a =>
          cases he
          exact .inl ⟨a, a.outcome_decodeWith⟩
      | iHave a =>
          cases he
          exact .inr ⟨a, IHave.outcome_decodeWith hfault⟩
      | _ => cases hdiscovery

/-- What is sent for a message with the header `request` from `source` is a frame around an NPDU
    with the header `header` and the APDU `apdu`, and all of these are as they should be. -/
structure Outgoing.IsAddressed (out : Outgoing) (config : Config) (request : Npdu)
    (source : Endpoint) (npdu : Octets) (header : Npdu) (apdu : Octets) : Prop where
  frame : BvllFrame.ofDatagram out.frame = .ok
    ⟨if out.broadcast then .originalBroadcastNpdu else .originalUnicastNpdu, none, npdu⟩
  message : Responder.decodeMessage.outcome npdu = .ok (header, apdu)
  length_field : Octets.toNat ((out.frame.drop 2).take 2) = out.frame.length
  length_le : out.frame.length ≤ 1492
  length_lt : out.frame.length < BvllFrame.maxLength
  broadcast_iff : out.broadcast = true ↔ IsAnnouncement apdu ∧ config.addressing = .broadcast
  destination : out.destination =
    if out.broadcast then ⟨config.broadcast, source.port, 0⟩ else source
  header_broadcast : out.broadcast = true →
    header = ⟨0x20, some ⟨0xFFFF, []⟩, none, some 255, none⟩
  header_local : out.broadcast = false → request.source = none →
    header = ⟨0, none, none, none, none⟩
  header_routed : ∀ a, out.broadcast = false → request.source = some a →
    header = ⟨0x20, some a, none, some 255, none⟩
  source_eq : header.source = none
  networkMessage_eq : header.networkMessage = none ∧ header.isNetworkMessage = false

namespace Reply

variable {reply : Reply} {config : Config} {request : Npdu} {source : Endpoint} {e : Encoding}

theorem isBroadcast_iff : reply.isBroadcast config = true ↔
    reply.isDiscovery = true ∧ config.addressing = .broadcast := by
  rw [isBroadcast, Bool.and_eq_true, beq_iff_eq]

theorem length_frame_sent_le (reply : Reply) (config : Config) (source : Endpoint)
    (h : request.WellFormed) {apdu : Octets} (hlength : apdu.length ≤ maxApdu) :
    (reply.sent config request source apdu).frame.length ≤ 1492 := by
  have hheader : (header (reply.isBroadcast config) request).encode.octets.length ≤ 12 :=
    size_encode_header_le h _
  have hframe : (reply.sent config request source apdu).frame.length = BvllFrame.headerLength +
      ((header (reply.isBroadcast config) request).encode.octets ++ apdu).length :=
    BvllFrame.size_encodeNpdu (frame_eq h hlength _).1 _
  rw [hframe, List.length_append, BvllFrame.headerLength]
  simp only [maxApdu] at hlength
  omega

/-- A header that sets out names neither where it comes from nor a message of the network layer. -/
theorem source_networkMessage_header (broadcast : Bool) (request : Npdu) :
    (header broadcast request).source = none ∧
      (header broadcast request).networkMessage = none := by
  cases broadcast with
  | true => exact ⟨rfl, rfl⟩
  | false =>
      show request.replyTo.source = none ∧ request.replyTo.networkMessage = none
      unfold Npdu.replyTo
      cases request.source <;> exact ⟨rfl, rfl⟩

/-- What is sent for the written form of a reply is addressed as it should be. -/
theorem isAddressed_sent (h : request.WellFormed) (he : reply.encode? = some e)
    (hfault : e.fault = none) (hfits : e.size ≤ reply.limit) :
    (reply.sent config request source e.octets).IsAddressed config request source
      ((header (reply.isBroadcast config) request).encode.octets ++ e.octets)
      (header (reply.isBroadcast config) request) e.octets := by
  have hlength : e.octets.length ≤ maxApdu := Nat.le_trans hfits reply.limit_le
  have hframe := BvllFrame.ofDatagram_encodeNpdu (frame_eq h hlength (reply.isBroadcast config)).1
    (reply.isBroadcast config)
  have hsize := length_frame_sent_le reply config source h hlength
  have hheader := source_networkMessage_header (reply.isBroadcast config) request
  refine {
    frame := hframe
    message := (Responder.reads_decodeMessage (wellFormed_header h _) e.octets).outcome
    length_field := BvllFrame.toNat_length_field hframe
    length_le := hsize
    length_lt := Nat.lt_of_le_of_lt hsize (by decide)
    broadcast_iff := isBroadcast_iff.trans (and_congr_left' (isAnnouncement_iff he hfault).symm)
    destination := rfl
    header_broadcast := ?broadcast
    header_local := ?directly
    header_routed := ?routed
    source_eq := hheader.1
    networkMessage_eq := ⟨hheader.2, isNetworkMessage_header _ request⟩ }
  case broadcast =>
    intro hbroadcast
    rw [show reply.isBroadcast config = true from hbroadcast]
    rfl
  case directly =>
    intro hbroadcast hsource
    rw [show reply.isBroadcast config = false from hbroadcast]
    show request.replyTo = _
    rw [Npdu.replyTo, hsource]
    rfl
  case routed =>
    intro a hbroadcast hsource
    rw [show reply.isBroadcast config = false from hbroadcast]
    show request.replyTo = _
    rw [Npdu.replyTo, hsource]
    rfl

end Reply

namespace Responder

variable {r : Responder} {datagram : Octets} {source : Endpoint} {out : Outgoing}

/-- Whatever is sent is a frame around a message, not larger than a link takes, that goes back to
    where the request came from, or as an announcement to everyone if the configuration says so. -/
theorem process_isAddressed (h : r.process datagram source = some out) :
    ∃ request body npdu header apdu, Carries datagram request body ∧
      out.IsAddressed r.config request source npdu header apdu := by
  obtain ⟨request, body, hcarries⟩ := exists_carries_of_process h
  obtain ⟨e, he, hfault, hfits, rfl⟩ := hcarries.process_eq_some_iff.1 h
  exact ⟨request, body, _, _, e.octets, hcarries,
    Reply.isAddressed_sent hcarries.wellFormed he hfault hfits⟩

/-- A question which devices there are that crossed a router is answered over that router. -/
theorem process_isAddressed_routed : ∃ (r : Responder) (out : Outgoing) (apdu : Octets),
    r.process [0x81, 0x0A, 0, 13, 1, 8, 0, 7, 2, 0xAA, 0xBB, 0x10, 8]
      ⟨.v4 10 0 0 1, 47808, 0⟩ = some out ∧
    out.destination = ⟨.v4 10 0 0 1, 47808, 0⟩ ∧
    Carries out.frame ⟨0x20, some ⟨7, [0xAA, 0xBB]⟩, none, some 255, none⟩ apdu := by
  let r : Responder := ⟨.bare, { addressing := .unicast }⟩
  have hsome : (r.process [0x81, 0x0A, 0, 13, 1, 8, 0, 7, 2, 0xAA, 0xBB, 0x10, 8]
      ⟨.v4 10 0 0 1, 47808, 0⟩).isSome = true := by
    decide +kernel
  obtain ⟨out, hout⟩ := Option.isSome_iff_exists.1 hsome
  obtain ⟨request, body, npdu, header, apdu, ⟨frame, hframe, hmessage⟩, haddressed⟩ :=
    process_isAddressed hout
  have hunicast : out.broadcast = false := by
    rw [← Bool.not_eq_true, haddressed.broadcast_iff]
    rintro ⟨-, haddressing⟩
    cases haddressing
  have hsource : request.source = some ⟨7, [0xAA, 0xBB]⟩ := by
    cases hframe
    cases hmessage
    rfl
  refine ⟨r, out, apdu, hout, ?_, _, haddressed.frame, ?_⟩
  · rw [haddressed.destination, hunicast]
    rfl
  · rw [haddressed.message, haddressed.header_routed _ hunicast hsource]

end Responder

end Bacnet
