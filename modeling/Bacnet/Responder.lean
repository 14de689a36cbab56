import Bacnet.Bvll
import Bacnet.Reply.Discovery
import Bacnet.Reply.Reading
import Bacnet.Responder.Config

set_option autoImplicit false

/-! # Responders: one datagram in, at most one datagram out

A responder takes a datagram apart from the outside in, asks its device for a reply, and puts the
reply together from the inside out. What cannot be taken apart, what asks for nothing and what
does not fit is met with silence. The answer goes to where the datagram came from, whatever origin
a frame claims; only announcements may go to everyone. -/

namespace Bacnet

/-- A datagram to send. -/
structure Outgoing where
  destination : Endpoint
  broadcast : Bool
  frame : Octets
deriving DecidableEq, Repr

/-! ## Replies -/

/-- The reply of a device to a request. -/
def Device.reply (d : Device) (config : Config) (indication : Indication) : Reply :=
  match indication.request, indication.requester with
  | .whoIs q, _ => d.replyToWhoIs q
  | .whoHas q, _ => d.replyToWhoHas q
  | .readProperty q, some requester => d.replyToReadProperty requester q
  | .readPropertyMultiple q, some requester => d.replyToReadPropertyMultiple requester q
  | .unsupported _, some requester =>
    if config.rejectUnrecognized then
      .reject ⟨requester.invokeId, RejectReason.unrecognizedService.code.toUInt8⟩
    else .silence
  | .readProperty _, none | .readPropertyMultiple _, none | .unsupported _, none => .silence

/-- The reply of a device to the message behind a header. -/
def Device.replyToApdu (d : Device) (config : Config) (header : Npdu) (apdu : Octets) : Reply :=
  (Indication.ofApdu? header apdu).elim .silence (d.reply config)

/-! ## Frames -/

namespace Reply

/-- Whether a reply goes to everyone. -/
def isBroadcast (reply : Reply) (config : Config) : Bool :=
  reply.isDiscovery && config.addressing == .broadcast

/-- The APDU of a reply; nothing if there is none or if it is too large. -/
def apdu (reply : Reply) : Except EncodeError (Option Octets) :=
  match reply.encode? with
  | none => .ok none
  | some encoding =>
    match encoding.within reply.limit with
    | .ok apdu => .ok (some apdu)
    | .error .bufferTooSmall => .ok none
    | .error e => .error e

/-- The room for a header of the network layer, which no header exceeds. -/
def maxHeaderLength : Nat := 32

/-- The frame around an APDU. -/
def frame (broadcast : Bool) (request : Npdu) (apdu : Octets) : Except EncodeError Octets := do
  let header := if broadcast then Npdu.globalBroadcast else request.replyTo
  let npdu := (← header.encode.within maxHeaderLength) ++ apdu
  (BvllFrame.encodeNpdu broadcast npdu).within (BvllFrame.headerLength + npdu.length)

/-- The datagram for a reply to a request with a header from an endpoint. -/
def outgoing (reply : Reply) (config : Config) (request : Npdu) (source : Endpoint) :
    Except EncodeError (Option Outgoing) := do
  match ← reply.apdu with
  | none => return none
  | some apdu =>
    let broadcast := reply.isBroadcast config
    let frame ← frame broadcast request apdu
    let destination := if broadcast then source.withIp config.broadcast else source
    return some ⟨destination, broadcast, frame⟩

end Reply

/-! ## Responders -/

/-- A device that answers. -/
structure Responder where
  device : Device
  config : Config
deriving Repr

namespace Responder

/-- Reads the header of the network layer, and all behind it. -/
def decodeMessage : Decode (Npdu × Octets) := do
  let header ← Npdu.decode
  return (header, ← Decode.rest)

/-- The answer to a datagram. -/
def process (r : Responder) (datagram : Octets) (source : Endpoint) : Option Outgoing := do
  let frame ← (BvllFrame.ofDatagram datagram).toOption
  let (header, apdu) ← (decodeMessage.outcome frame.npdu).toOption
  let reply := r.device.replyToApdu r.config header apdu
  ((reply.outgoing r.config header source).toOption).join

end Responder

end Bacnet
