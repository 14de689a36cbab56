import Bacnet.Npdu
import Bacnet.Service.Discovery
import Bacnet.Service.ReadPropertyMultiple

set_option autoImplicit false

/-! # Requests: what a message asks for

The type of an APDU decides whether it asks for anything. Only requests that are whole and well
formed are taken: a segment, a header that is cut off, a body of the wrong form, an answer and a
message of the network layer ask for nothing. A request for a service that is not known is taken
without a look at its body. -/

namespace Bacnet

/-! ## What arrived -/

/-- What a message is, judged by its network header and its first octet. -/
inductive MessageKind where
  | pdu (t : PduType)
  /-- A type number that has no meaning. -/
  | reserved (number : UInt8)
  /-- No APDU: a message of the network layer, or an empty one. -/
  | unrecognized
deriving DecidableEq, Repr

/-- The kind of the message behind a header. -/
def MessageKind.of (header : Npdu) (apdu : Octets) : MessageKind :=
  if header.isNetworkMessage then .unrecognized
  else
    match apdu with
    | [] => .unrecognized
    | first :: _ =>
      match PduType.ofFirstOctet? first with
      | some t => .pdu t
      | none => .reserved (first >>> 4)

/-! ## Requests -/

/-- What is asked for. -/
inductive Request where
  | whoIs (q : WhoIs)
  | whoHas (q : WhoHas)
  | readProperty (q : ReadProperty)
  | readPropertyMultiple (q : ReadPropertyMultiple)
  /-- A service that is not known. -/
  | unsupported (service : UInt8)
deriving DecidableEq, Repr

namespace Request

/-- Reads the body of a confirmed request for a service. -/
def decodeConfirmed (service : UInt8) : Decode Request :=
  if service = ReadProperty.service then .readProperty <$> ReadProperty.decodeBody
  else if service = ReadPropertyMultiple.service then
    .readPropertyMultiple <$> ReadPropertyMultiple.decodeBody
  else pure (.unsupported service)

/-- Reads the body of an unconfirmed request for a service. -/
def decodeUnconfirmed (service : UInt8) : Decode Request :=
  if service = WhoHas.service then .whoHas <$> WhoHas.decodeBody
  else if service = WhoIs.service then .whoIs <$> WhoIs.decodeBody
  else pure (.unsupported service)

end Request

/-! ## Indications -/

/-- What the sender of a confirmed request waits for: an answer with the number of its request, and
    not larger than it can take. -/
structure Requester where
  invokeId : UInt8
  maxApdu : Nat
deriving DecidableEq, Repr

/-- A request, with its requester if it is confirmed. -/
structure Indication where
  requester : Option Requester
  request : Request
deriving DecidableEq, Repr

namespace Indication

/-- Reads a confirmed request in one segment. -/
def decodeConfirmed : Decode Indication := do
  let header ← ConfirmedHeader.decode
  if header.isSegmented then throw .unsupported
  return ⟨some ⟨header.invokeId, header.maxApduOctets⟩, ← Request.decodeConfirmed header.service⟩

/-- Reads an unconfirmed request. -/
def decodeUnconfirmed : Decode Indication := do
  return ⟨none, ← Request.decodeUnconfirmed (← UnconfirmedHeader.decode)⟩

/-- The request that the message behind a header makes, if it makes one. -/
def ofApdu? (header : Npdu) (apdu : Octets) : Option Indication :=
  match MessageKind.of header apdu with
  | .pdu .confirmedRequest => (decodeConfirmed.outcome apdu).toOption
  | .pdu .unconfirmedRequest => (decodeUnconfirmed.outcome apdu).toOption
  | _ => none

end Indication

end Bacnet
