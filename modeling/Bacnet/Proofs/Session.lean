import Bacnet.Proofs.Addressing
import Bacnet.Responder.Session
import Mathlib.Data.List.Basic

set_option autoImplicit false

/-! # Sessions answer each datagram alone

All datagrams of a session are received into one buffer, and what the responder is given of it are
the octets of the last datagram and no others (`Arrival.take_receive`). So, by induction on what
arrives, a session is what happens with each datagram alone, whatever stood in the buffer and
whichever sends failed (`Responder.serve_eq`). Of a datagram that is longer than the buffer the
front is left, and the length that is said in the front is not the one of the front, so it is not
answered (`Responder.process_take_eq_none`). No send is refused for the length of its frame
(`Responder.refusal?_of_mem_run`). -/

namespace Bacnet

/-! ## Receiving -/

namespace Arrival

variable (a : Arrival) (buffer : Octets)

theorem length_receive : (a.receive buffer).1.length = buffer.length := by
  have hfits : (a.datagram.take buffer.length).length ≤ buffer.length := List.length_take_le ..
  simp only [receive, List.length_append, List.length_drop]
  omega

/-- What is received of a datagram is as much of its front as the buffer holds. -/
theorem take_receive :
    (a.receive buffer).1.take (a.receive buffer).2 = a.datagram.take buffer.length :=
  List.take_left

/-- What is received of a datagram in a session. -/
def front : Octets := a.datagram.take BvllFrame.maxLength

end Arrival

/-! ## Sessions -/

/-- The octets and the destination of a send. -/
def Event.send? : Event → Option (Octets × Endpoint)
  | received _ => none
  | sent frame destination _ => some (frame, destination)

namespace Responder

variable (r : Responder)

/-- What is sent in answer to a datagram alone. -/
def send? (datagram : Octets) (source : Endpoint) : Option (Octets × Endpoint) :=
  (r.process datagram source).map fun outgoing => (outgoing.frame, outgoing.destination)

theorem filterMap_answer (received : Octets) (a : Arrival) :
    (r.answer received a).filterMap Event.send? = (r.send? received a.source).toList := by
  unfold answer send?
  cases r.process received a.source with
  | none => rfl
  | some outgoing => rfl

/-- A session goes through what arrives and does nothing with a datagram but to answer it, whatever
    is in the buffer. -/
theorem serve_eq {buffer : Octets} (hbuffer : buffer.length = BvllFrame.maxLength)
    (arrivals : List Arrival) : r.serve buffer arrivals
      = arrivals.flatMap fun a => .received a.front.length :: r.answer a.front a := by
  induction arrivals generalizing buffer with
  | nil => rfl
  | cons a arrivals ih =>
      have hkept : (a.receive buffer).1.length = BvllFrame.maxLength :=
        (a.length_receive buffer).trans hbuffer
      have hfront : (a.receive buffer).1.take (a.receive buffer).2 = a.front := by
        rw [a.take_receive, hbuffer, Arrival.front]
      have hcount : (a.receive buffer).2 = a.front.length := by
        rw [Arrival.front, ← hbuffer]
        rfl
      rw [List.flatMap_cons, ← ih hkept, ← hcount, ← hfront]
      rfl

theorem filterMap_serve {buffer : Octets} (hbuffer : buffer.length = BvllFrame.maxLength)
    (arrivals : List Arrival) : (r.serve buffer arrivals).filterMap Event.send?
      = arrivals.filterMap fun a => r.send? a.front a.source := by
  rw [serve_eq r hbuffer, List.filterMap_flatMap, List.filterMap_eq_flatMap_toList]
  exact List.flatMap_congr fun a _ => r.filterMap_answer a.front a

/-- A datagram that says how long it is is not answered when it is cut. -/
theorem process_take_eq_none {datagram : Octets} {n : Nat} (hn : 4 ≤ n)
    (hlong : n < datagram.length)
    (hlength : Octets.toNat ((datagram.drop 2).take 2) = datagram.length) (source : Endpoint) :
    r.process (datagram.take n) source = none := by
  have hfield : ((datagram.take n).drop 2).take 2 = (datagram.drop 2).take 2 := by
    rw [List.drop_take, List.take_take, Nat.min_eq_left (by omega)]
  unfold process
  cases hframe : BvllFrame.ofDatagram (datagram.take n) with
  | error e => rfl
  | ok frame =>
      have hcut := BvllFrame.toNat_length_field hframe
      rw [hfield, hlength, List.length_take] at hcut
      omega

/-- The frames that a responder sends are short enough for any link. -/
theorem refusal?_of_process {r : Responder} {datagram : Octets} {source : Endpoint} {out : Outgoing}
    (h : r.process datagram source = some out) : BvllFrame.refusal? out.frame = none := by
  obtain ⟨request, body, hcarries⟩ := exists_carries_of_process h
  obtain ⟨e, -, -, hfits, rfl⟩ := hcarries.process_eq_some_iff.1 h
  let reply := r.device.replyToApdu r.config request body
  have hlength := reply.length_frame_sent_le r.config source hcarries.wellFormed
    (Nat.le_trans hfits reply.limit_le)
  exact if_neg (Nat.not_lt.2 (Nat.le_trans hlength (by decide)))

theorem refusal?_of_mem_run {link : Link} {frame : Octets} {destination : Endpoint} {failed : Bool}
    (h : .sent frame destination failed ∈ (r.run link).events) :
    BvllFrame.refusal? frame = none := by
  rw [run, r.serve_eq List.length_replicate] at h
  obtain ⟨a, -, h⟩ := List.mem_flatMap.1 h
  rcases List.mem_cons.1 h with h | h
  · cases h
  · unfold answer at h
    split at h
    · cases h
    · next outgoing hout =>
        cases List.mem_singleton.1 h
        exact refusal?_of_process hout

/-- A session on a link is nothing but the answers to the datagrams alone. -/
structure ServesAlone (link : Link) : Prop where
  /-- The sends are those for each datagram alone, at most one for each, in order. -/
  sends : (r.run link).events.filterMap Event.send?
    = link.arrivals.filterMap fun a => r.send? a.front a.source
  ending : (r.run link).ending = link.failure
  /-- A failed send is noted and changes nothing else. -/
  events : (r.run link).events
    = link.arrivals.flatMap fun a => .received a.front.length :: r.answer a.front a
  /-- It makes no difference what is in the buffer. -/
  buffer : ∀ buffer : Octets, buffer.length = BvllFrame.maxLength →
    r.serve buffer link.arrivals = (r.run link).events
  /-- Nor does it which sends fail. -/
  failures : ∀ link' : Link,
    link'.arrivals.map (fun a => (a.datagram, a.source))
      = link.arrivals.map (fun a => (a.datagram, a.source)) →
    (r.run link').events.filterMap Event.send? = (r.run link).events.filterMap Event.send?
  whole : ∀ a ∈ link.arrivals, a.datagram.length ≤ 1600 → a.front = a.datagram
  cut : ∀ a ∈ link.arrivals, 1600 < a.datagram.length →
    Octets.toNat ((a.datagram.drop 2).take 2) = a.datagram.length →
    r.send? a.front a.source = none

theorem filterMap_run (link : Link) : (r.run link).events.filterMap Event.send?
    = link.arrivals.filterMap fun a => r.send? a.front a.source :=
  r.filterMap_serve List.length_replicate link.arrivals

/-- A session attempts the sends that the responder gives for what it received of each datagram
    alone, in order, and ends with the failure of the link. -/
theorem servesAlone (link : Link) : r.ServesAlone link where
  sends := r.filterMap_run link
  ending := rfl
  events := r.serve_eq List.length_replicate link.arrivals
  buffer := by
    intro buffer hbuffer
    rw [run, r.serve_eq hbuffer, r.serve_eq List.length_replicate]
  failures := by
    intro link' hsame
    have hsends : ∀ arrivals : List Arrival,
        (arrivals.filterMap fun a => r.send? a.front a.source)
          = (arrivals.map fun a => (a.datagram, a.source)).filterMap fun (datagram, source) =>
              r.send? (datagram.take BvllFrame.maxLength) source := by
      intro arrivals
      rw [List.filterMap_map]
      rfl
    rw [filterMap_run, filterMap_run, hsends, hsends, hsame]
  whole := by
    intro a _ hlength
    exact List.take_of_length_le hlength
  cut := by
    intro a _ hlong hlength
    have hnone : r.process a.front a.source = none :=
      r.process_take_eq_none (by decide) hlong hlength a.source
    rw [send?, hnone, Option.map_none]

end Responder

end Bacnet
