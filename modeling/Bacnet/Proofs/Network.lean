import Bacnet.Proofs.Device
import Bacnet.Proofs.Responder

set_option autoImplicit false

/-! # Responders among themselves

Nothing that a responder sends is answered by a responder: an announcement is a request of a service
that is not known and that nobody waits for, and any other reply is no request at all. So a frame
that was sent is quiet wherever and however often it is delivered (`quiet_of_process`), and in a
network of responders only what comes from outside makes anything happen. -/

namespace Bacnet

/-! ## Replies are not answered -/

/-- The written form of a reply makes no request that is answered. -/
theorem Device.replyToApdu_encode (d : Device) (config : Config) {header : Npdu}
    (hheader : header.isNetworkMessage = false) {reply : Reply} {e : Encoding}
    (he : reply.encode? = some e) : d.replyToApdu config header e.octets = .silence := by
  -- Not even a responder that rejects says anything here, because there is no one to tell.
  have hannouncement : ∀ {service : UInt8} (fields : Octets), service ≠ WhoHas.service →
      service ≠ WhoIs.service → d.replyToApdu config header
        ((UnconfirmedHeader.encode service).octets ++ fields) = .silence := by
    intro service fields hwhoHas hwhoIs
    rw [replyToApdu, Indication.ofApdu?_unconfirmed hheader hwhoHas hwhoIs]
    rfl
  cases hdiscovery : reply.isDiscovery with
  | false =>
      obtain ⟨t, rest, hconfirmed, hunconfirmed, hoctets⟩ :=
        Reply.exists_firstOctet_of_encode? he hdiscovery
      rw [hoctets, replyToApdu,
        Indication.ofApdu?_firstOctet_eq_none hheader hconfirmed hunconfirmed]
      rfl
  | true =>
      cases reply with
      | iAm a =>
          cases he
          rw [a.octets_encode]
          exact hannouncement _ (by decide) (by decide)
      | iHave a =>
          cases he
          rw [a.octets_encode]
          exact hannouncement _ (by decide) (by decide)
      | _ => cases hdiscovery

namespace Responder

/-- A frame that no responder answers, wherever it comes from. -/
def Quiet (frame : Octets) : Prop :=
  ∀ (r : Responder) (source : Endpoint), r.process frame source = none

theorem quiet_of_process {r : Responder} {datagram : Octets} {source : Endpoint} {out : Outgoing}
    (h : r.process datagram source = some out) : Quiet out.frame := by
  obtain ⟨header, apdu, hcarries⟩ := exists_carries_of_process h
  obtain ⟨e, he, -, -, hframe⟩ := Carries.exists_carries_of_process rfl hcarries h
  intro other source'
  rw [hframe.process_eq, Device.replyToApdu_encode _ _ (Reply.isNetworkMessage_header ..) he]
  rfl

end Responder

/-! ## Networks -/

namespace Network

/-- A datagram that reaches one of the responders of a network. -/
structure Delivery (ι : Type) where
  target : ι
  datagram : Octets
  source : Endpoint

variable {ι : Type} (nodes : ι → Responder)

/-- The frames that are sent in answer to a delivery. -/
def caused (delivery : Delivery ι) : List Octets :=
  (((nodes delivery.target).process delivery.datagram delivery.source).map (·.frame)).toList

/-- The frames that were sent, after one more delivery. -/
def step (sent : List Octets) (delivery : Delivery ι) : List Octets :=
  sent ++ caused nodes delivery

/-- The frames that are sent in a run of deliveries. -/
def run (deliveries : List (Delivery ι)) : List Octets := deliveries.foldl (step nodes) []

theorem quiet_of_mem_caused {delivery : Delivery ι} {frame : Octets}
    (h : frame ∈ caused nodes delivery) : Responder.Quiet frame := by
  obtain ⟨out, hout, rfl⟩ := Option.map_eq_some_iff.1 (Option.mem_toList.1 h)
  exact Responder.quiet_of_process hout

theorem quiet_of_mem_step {sent : List Octets} (hsent : ∀ frame ∈ sent, Responder.Quiet frame)
    (delivery : Delivery ι) : ∀ frame ∈ step nodes sent delivery, Responder.Quiet frame := by
  intro frame hframe
  rcases List.mem_append.1 hframe with hframe | hframe
  · exact hsent frame hframe
  · exact quiet_of_mem_caused nodes hframe

/-- Every frame that is sent in a run is quiet. -/
theorem quiet_of_mem_run (deliveries : List (Delivery ι)) :
    ∀ frame ∈ run nodes deliveries, Responder.Quiet frame := by
  -- That all frames so far are quiet is the invariant of the run, so it starts anywhere.
  have hall : ∀ sent, (∀ frame ∈ sent, Responder.Quiet frame) →
      ∀ frame ∈ deliveries.foldl (step nodes) sent, Responder.Quiet frame := by
    induction deliveries with
    | nil => exact fun _ h => h
    | cons delivery deliveries ih =>
        exact fun sent hsent => ih _ (quiet_of_mem_step nodes hsent delivery)
  exact hall [] fun frame hframe => nomatch hframe

/-- A delivery of a frame that was sent sends nothing. -/
theorem caused_eq_nil {delivery : Delivery ι} (h : Responder.Quiet delivery.datagram) :
    caused nodes delivery = [] := by
  rw [caused, h (nodes delivery.target) delivery.source]
  rfl

/-- No responder answers what a responder sends. So in a run of deliveries, in any order and to any
    responders, the delivery of a frame that was sent before sends nothing, and the run goes on as
    if there had been no such delivery. -/
theorem no_reply_loops :
    (∀ (r r' : Responder) (datagram : Octets) (source source' : Endpoint) (out : Outgoing),
      r.process datagram source = some out → r'.process out.frame source' = none) ∧
    ∀ (ι : Type) (nodes : ι → Responder) (front : List (Delivery ι)) (delivery : Delivery ι)
      (back : List (Delivery ι)), delivery.datagram ∈ run nodes front →
        caused nodes delivery = [] ∧
          run nodes (front ++ delivery :: back) = run nodes (front ++ back) := by
  constructor
  · intro r r' datagram source source' out h
    exact Responder.quiet_of_process h r' source'
  · intro ι nodes front delivery back h
    have hcaused := caused_eq_nil nodes (quiet_of_mem_run nodes front _ h)
    refine ⟨hcaused, ?_⟩
    have hstep : step nodes (run nodes front) delivery = run nodes front := by
      rw [step, hcaused, List.append_nil]
    rw [run, run, List.foldl_append, List.foldl_cons, List.foldl_append]
    exact congrArg (fun sent => back.foldl (step nodes) sent) hstep

/-- An announcement in answer to a question is not answered, not even by a responder that rejects
    what it does not know, and its delivery in a network sends nothing. -/
theorem no_reply_loops_whoIs :
    ∃ (r r' : Responder) (out : Outgoing), r'.config.rejectUnrecognized = true ∧
      r.process [0x81, 0x0B, 0, 8, 1, 0, 0x10, 0x08] ⟨.v4 10 0 0 1, 47808, 0⟩ = some out ∧
      r'.process out.frame ⟨.v4 10 0 0 2, 47808, 0⟩ = none ∧
      caused (fun b : Bool => if b then r else r') ⟨false, out.frame, ⟨.v4 10 0 0 2, 47808, 0⟩⟩
        = [] := by
  let d : Device := ⟨⟨.ofParts .device 1, "plant", Schema.device, .empty, by decide⟩, [], .empty,
    .empty⟩
  let question : Octets := [0x81, 0x0B, 0, 8, 1, 0, 0x10, 0x08]
  have hsome : (Responder.process ⟨d, {}⟩ question ⟨.v4 10 0 0 1, 47808, 0⟩).isSome = true := by
    decide +kernel
  obtain ⟨out, hout⟩ := Option.isSome_iff_exists.1 hsome
  refine ⟨⟨d, {}⟩, ⟨d, { rejectUnrecognized := true }⟩, out, rfl, hout,
    no_reply_loops.1 _ _ _ _ _ _ hout, ?_⟩
  refine (no_reply_loops.2 Bool _ [⟨true, question, ⟨.v4 10 0 0 1, 47808, 0⟩⟩] _ [] ?_).1
  show out.frame ∈ [] ++ ((Responder.process ⟨d, {}⟩ question _).map (·.frame)).toList
  rw [hout]
  exact List.mem_singleton_self out.frame

end Network

end Bacnet
