import Bacnet.Responder

set_option autoImplicit false

/-! # Sessions: a responder on a link

A link hands out datagrams until it fails. They are received one after the other into the same
buffer, so behind a short datagram stand the octets of longer ones before it, and a datagram that
is longer than the buffer is cut. A send that fails is noted and otherwise ignored. -/

namespace Bacnet

/-- A datagram that a link hands out, and whether the link fails to send the answer to it. -/
structure Arrival where
  datagram : Octets
  source : Endpoint
  sendFails : Bool
deriving DecidableEq, Repr

/-- What can go wrong on a link. -/
inductive LinkError where
  | io (reason : String)
  /-- A frame is larger than any that is handled. -/
  | frameTooLarge (length : Nat)
deriving DecidableEq, Repr

/-- The wording of the failure, as a session that ends in it shows it. -/
def LinkError.message : LinkError → String
  | io reason => "datalink error: io error: " ++ reason
  | frameTooLarge length =>
    "datalink error: frame of " ++ toString length ++ " octets exceeds the B/IP maximum"

/-- Why a frame is not sent, whatever becomes of the frames that are. -/
def BvllFrame.refusal? (frame : Octets) : Option LinkError :=
  if maxLength < frame.length then some (.frameTooLarge frame.length) else none

/-- Something that happened on a link. -/
inductive Event where
  | received (count : Nat)
  | sent (frame : Octets) (destination : Endpoint) (failed : Bool)
deriving DecidableEq, Repr

/-- What a link does: it hands out datagrams and then fails. -/
structure Link where
  arrivals : List Arrival
  failure : LinkError
deriving DecidableEq, Repr

/-- What happened on a link, and how it ended. -/
structure Session where
  events : List Event
  ending : LinkError
deriving DecidableEq, Repr

/-- The buffer with a datagram in front, as far as it fits, and the number of octets that fit. -/
def Arrival.receive (a : Arrival) (buffer : Octets) : Octets × Nat :=
  let front := a.datagram.take buffer.length
  (front ++ buffer.drop front.length, front.length)

namespace Responder

/-- What is sent in answer to a received datagram. -/
def answer (r : Responder) (received : Octets) (a : Arrival) : List Event :=
  match r.process received a.source with
  | none => []
  | some outgoing => [.sent outgoing.frame outgoing.destination a.sendFails]

/-- What happens with datagrams that arrive when a buffer holds what it holds. -/
def serve (r : Responder) : (buffer : Octets) → List Arrival → List Event
  | _, [] => []
  | buffer, a :: arrivals =>
    let (buffer, count) := a.receive buffer
    .received count :: r.answer (buffer.take count) a ++ serve r buffer arrivals

/-- What happens on a link. -/
def run (r : Responder) (link : Link) : Session :=
  ⟨r.serve (List.replicate BvllFrame.maxLength 0) link.arrivals, link.failure⟩

end Responder

end Bacnet
