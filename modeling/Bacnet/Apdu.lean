import Bacnet.Code
import Bacnet.Contents

set_option autoImplicit false

/-! # APDU headers: what kind of message this is

The first octet of an APDU names its type in the high half. Behind it stand the fields that all
messages of the type share: for a confirmed request the sizes that the requester takes and the
number by which it knows the answer, for an answer that number and the service. -/

namespace Bacnet

/-! ## Types -/

/-- The types of APDU. -/
inductive PduType where
  | confirmedRequest
  | unconfirmedRequest
  | simpleAck
  | complexAck
  | segmentAck
  | error
  | reject
  | abort
deriving DecidableEq, Repr

namespace PduType

def number : PduType → UInt8
  | .confirmedRequest => 0
  | .unconfirmedRequest => 1
  | .simpleAck => 2
  | .complexAck => 3
  | .segmentAck => 4
  | .error => 5
  | .reject => 6
  | .abort => 7

/-- The type with a number; the numbers from 8 on are reserved. -/
def ofNumber? : UInt8 → Option PduType
  | 0 => some .confirmedRequest
  | 1 => some .unconfirmedRequest
  | 2 => some .simpleAck
  | 3 => some .complexAck
  | 4 => some .segmentAck
  | 5 => some .error
  | 6 => some .reject
  | 7 => some .abort
  | _ => none

/-- The type that the first octet of an APDU names. -/
def ofFirstOctet? (octet : UInt8) : Option PduType := ofNumber? (octet >>> 4)

/-- The first octet of an APDU of a type, with flags in its low half. -/
def firstOctet (t : PduType) (flags : UInt8) : UInt8 := t.number <<< 4 ||| (flags &&& 0x0F)

/-- Reads the first octet of an APDU that has to be of a type, and gives its flags. -/
def decodeFlags (t : PduType) : Decode UInt8 := do
  let octet ← Decode.octet
  if octet >>> 4 ≠ t.number then throw .invalidValue
  return octet &&& 0x0F

end PduType

/-- The flag of a message that is one segment of several. -/
def segmentedFlag : UInt8 := 8

/-- The flag of a segment behind which others follow. -/
def moreFollowsFlag : UInt8 := 4

/-- The flag of a requester that takes its answer in segments. -/
def segmentedResponseFlag : UInt8 := 2

/-! ## Confirmed requests -/

/-- Which segment of a message this is. -/
structure Segment where
  sequenceNumber : UInt8
  windowSize : UInt8
  moreFollows : Bool
deriving DecidableEq, Repr

/-- The header of a confirmed request. -/
structure ConfirmedHeader where
  segment : Option Segment
  segmentedResponseAccepted : Bool
  maxSegments : UInt8
  maxApdu : UInt8
  invokeId : UInt8
  service : UInt8
deriving DecidableEq, Repr

namespace ConfirmedHeader

/-- The header of a request in one segment that takes answers of every size. -/
def unsegmented (invokeId service : UInt8) : ConfirmedHeader :=
  ⟨none, true, 0, MaxApdu.upTo1476.code.toUInt8, invokeId, service⟩

/-- Whether the request is one segment of several. -/
def isSegmented (h : ConfirmedHeader) : Bool := h.segment.isSome

/-- The largest answer that the requester takes; a reserved code stands for the least size. -/
def maxApduOctets (h : ConfirmedHeader) : Nat :=
  ((MaxApdu.ofCode? h.maxApdu.toUInt32).getD .upTo50).octets

/-- The flags of the first octet. -/
def flags (h : ConfirmedHeader) : UInt8 :=
  (if h.segmentedResponseAccepted then segmentedResponseFlag else 0) |||
    match h.segment with
    | none => 0
    | some segment => segmentedFlag ||| if segment.moreFollows then moreFollowsFlag else 0

def encode (h : ConfirmedHeader) : Encoding :=
  .octet (PduType.confirmedRequest.firstOctet h.flags) ++
    .octet ((h.maxSegments &&& 0x07) <<< 4 ||| h.maxApdu &&& 0x0F) ++
    .octet h.invokeId ++
    (match h.segment with
      | none => .empty
      | some segment => .octet segment.sequenceNumber ++ .octet segment.windowSize) ++
    .octet h.service

/-- Reads the sequence number and the window size of a segment. -/
def decodeSegment (flags : UInt8) : Decode (Option Segment) := do
  if flags &&& segmentedFlag = 0 then return none
  let sequenceNumber ← Decode.octet
  let windowSize ← Decode.octet
  return some ⟨sequenceNumber, windowSize, flags &&& moreFollowsFlag != 0⟩

def decode : Decode ConfirmedHeader := do
  let flags ← PduType.confirmedRequest.decodeFlags
  let sizes ← Decode.octet
  let invokeId ← Decode.octet
  let segment ← decodeSegment flags
  let service ← Decode.octet
  return {
    segment
    segmentedResponseAccepted := flags &&& segmentedResponseFlag != 0
    maxSegments := (sizes >>> 4) &&& 0x07
    maxApdu := sizes &&& 0x0F
    invokeId
    service }

end ConfirmedHeader

/-! ## Unconfirmed requests -/

namespace UnconfirmedHeader

/-- The header of an unconfirmed request, which names the service and nothing else. -/
def encode (service : UInt8) : Encoding :=
  .octet (PduType.unconfirmedRequest.firstOctet 0) ++ .octet service

def decode : Decode UInt8 := do
  let _ ← PduType.unconfirmedRequest.decodeFlags
  Decode.octet

end UnconfirmedHeader

/-! ## Answers -/

/-- The header of an acknowledgement with a body. -/
structure ComplexAckHeader where
  invokeId : UInt8
  service : UInt8
deriving DecidableEq, Repr

namespace ComplexAckHeader

def encode (h : ComplexAckHeader) : Encoding :=
  .octet (PduType.complexAck.firstOctet 0) ++ .octet h.invokeId ++ .octet h.service

/-- Reads the header of an acknowledgement in one segment. -/
def decode : Decode ComplexAckHeader := do
  if (← PduType.complexAck.decodeFlags) &&& segmentedFlag ≠ 0 then throw .unsupported
  let invokeId ← Decode.octet
  let service ← Decode.octet
  return ⟨invokeId, service⟩

end ComplexAckHeader

/-- An error in answer to a confirmed request. -/
structure ErrorPdu where
  invokeId : UInt8
  service : UInt8
  errorClass : UInt32
  errorCode : UInt32
deriving DecidableEq, Repr

namespace ErrorPdu

def encode (e : ErrorPdu) : Encoding :=
  .octet (PduType.error.firstOctet 0) ++ .octet e.invokeId ++ .octet e.service ++
    Contents.encodeUnsigned (.application .enumerated) e.errorClass ++
    Contents.encodeUnsigned (.application .enumerated) e.errorCode

def decode : Decode ErrorPdu := do
  let _ ← PduType.error.decodeFlags
  let invokeId ← Decode.octet
  let service ← Decode.octet
  let errorClass ← Contents.decodeAppEnumerated
  let errorCode ← Contents.decodeAppEnumerated
  return ⟨invokeId, service, errorClass, errorCode⟩

end ErrorPdu

/-- A confirmed request turned away. -/
structure RejectPdu where
  invokeId : UInt8
  reason : UInt8
deriving DecidableEq, Repr

namespace RejectPdu

def encode (p : RejectPdu) : Encoding :=
  .piece [PduType.reject.firstOctet 0, p.invokeId, p.reason]

def decode : Decode RejectPdu := do
  let _ ← PduType.reject.decodeFlags
  let invokeId ← Decode.octet
  let reason ← Decode.octet
  return ⟨invokeId, reason⟩

end RejectPdu

end Bacnet
