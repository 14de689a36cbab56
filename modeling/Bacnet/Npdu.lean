import Bacnet.Octets.Reader
import Bacnet.Octets.Writer

set_option autoImplicit false

/-! # NPDU headers: the network layer

In front of every APDU stands a header that says where the message came from and where it goes, if
it crosses routers. A device that does not route reads it to find the APDU and to address its
answer. The octet of control bits is kept as it came, so a header that was read is written back
octet for octet. -/

namespace Bacnet

/-! ## Network addresses -/

/-- A station on a network by its MAC address, or all stations of a network when that is empty. -/
structure NetworkAddress where
  network : UInt16
  mac : Octets
deriving DecidableEq, Repr

namespace NetworkAddress

/-- The longest MAC address that is handled. -/
def maxMacLength : Nat := 6

/-- All stations of a network. -/
def broadcast (network : UInt16) : NetworkAddress := ⟨network, []⟩

/-- The network number that stands for all networks. -/
def globalNetwork : UInt16 := 0xFFFF

/-- The written form of an address; none for a MAC address that is too long. -/
def encode (a : NetworkAddress) : Encoding :=
  if maxMacLength < a.mac.length then .fail .invalidLength
  else .piece (Octets.ofUInt16 a.network) ++ .octet (.ofNat a.mac.length) ++ .piece a.mac

def decode : Decode NetworkAddress := do
  let network ← Decode.word16
  let length ← Decode.octet
  if maxMacLength < length.toNat then throw .invalidLength
  return ⟨network, ← Decode.octets length.toNat⟩

end NetworkAddress

/-! ## Headers -/

/-- The type of a message of the network layer itself, and its vendor if it is proprietary. -/
structure NetworkMessage where
  messageType : UInt8
  vendorId : Option UInt16
deriving DecidableEq, Repr

/-- A header of the network layer. -/
structure Npdu where
  control : UInt8
  destination : Option NetworkAddress
  source : Option NetworkAddress
  hopCount : Option UInt8
  networkMessage : Option NetworkMessage
deriving DecidableEq, Repr

namespace Npdu

/-- The protocol version, the first octet of every header. -/
def version : UInt8 := 1

/-- The control bit of a message of the network layer. -/
def networkMessageBit : UInt8 := 0x80

/-- The control bit of a destination. -/
def destinationBit : UInt8 := 0x20

/-- The control bit of a source. -/
def sourceBit : UInt8 := 0x08

/-- The control bit of a message that expects an answer. -/
def expectingReplyBit : UInt8 := 0x04

/-- The hop count of a message that sets out. -/
def fullHopCount : UInt8 := 255

/-- Whether messages of a type name the vendor that defines them. -/
def isProprietary (messageType : UInt8) : Bool := 0x80 ≤ messageType

/-- A header with nothing but control bits. -/
def ofControl (control : UInt8) : Npdu := ⟨control, none, none, none, none⟩

/-- The header of a message that sets out to an address. -/
def toAddress (destination : NetworkAddress) : Npdu :=
  ⟨destinationBit, some destination, none, some fullHopCount, none⟩

/-- The header of a message to all stations of all networks. -/
def globalBroadcast : Npdu := toAddress (.broadcast NetworkAddress.globalNetwork)

/-- The header of an answer. A request that crossed a router names where it came from, and the
    answer is addressed there. -/
def replyTo (request : Npdu) : Npdu :=
  match request.source with
  | none => ofControl 0
  | some source => toAddress source

/-- Whether a message of the network layer follows and no APDU. -/
def isNetworkMessage (h : Npdu) : Bool := h.control &&& networkMessageBit != 0

/-- Whether the sender expects an answer. -/
def expectsReply (h : Npdu) : Bool := h.control &&& expectingReplyBit != 0

/-! ## Writing and reading -/

/-- The type and the vendor of a network message; a proprietary type always takes a vendor. -/
def encodeMessage (message : NetworkMessage) : Encoding :=
  .octet message.messageType ++
    if isProprietary message.messageType then
      .piece (Octets.ofUInt16 (message.vendorId.getD 0))
    else .empty

/-- The written form of a header: each address that is there, a hop count if there is a
    destination, and a message type if the control bits say so. -/
def encode (h : Npdu) : Encoding :=
  .piece [version, h.control] ++
    (h.destination.elim .empty (·.encode)) ++
    (h.source.elim .empty (·.encode)) ++
    (if h.destination.isSome then .octet (h.hopCount.getD fullHopCount) else .empty) ++
    (if h.isNetworkMessage then encodeMessage (h.networkMessage.getD ⟨0, none⟩) else .empty)

/-- Runs a reading if a condition holds. -/
def decodeIf {α : Type} (condition : Bool) (reading : Decode α) : Decode (Option α) :=
  if condition then some <$> reading else pure none

/-- Reads the type of a network message, and the vendor of a proprietary one. -/
def decodeMessage : Decode NetworkMessage := do
  let messageType ← Decode.octet
  return ⟨messageType, ← decodeIf (isProprietary messageType) Decode.word16⟩

def decode : Decode Npdu := do
  if (← Decode.octet) ≠ version then throw .invalidValue
  let control ← Decode.octet
  let destination ← decodeIf (control &&& destinationBit != 0) NetworkAddress.decode
  let source ← decodeIf (control &&& sourceBit != 0) NetworkAddress.decode
  let hopCount ← decodeIf destination.isSome Decode.octet
  let networkMessage ← decodeIf (control &&& networkMessageBit != 0) decodeMessage
  return ⟨control, destination, source, hopCount, networkMessage⟩

end Npdu

end Bacnet
