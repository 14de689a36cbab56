import Bacnet.Request

set_option autoImplicit false

/-! # Replies: what a device has to say to a request

A reply is what goes behind the headers, or silence. An acknowledgement must not be larger than its
requester can take; nothing is larger than a device itself handles. -/

namespace Bacnet

/-- What is said to a request. -/
inductive Reply where
  | silence
  | iAm (a : IAm)
  | iHave (a : IHave)
  /-- A property, with the name of the object that has it unless that is the device. -/
  | readPropertyAck (requester : Requester) (objectName : Option String) (a : ReadPropertyAck)
  | readPropertyMultipleAck (requester : Requester) (a : ReadPropertyMultipleAck)
  | error (e : ErrorPdu)
  | reject (r : RejectPdu)
deriving Repr

namespace Reply

/-- The largest APDU that is sent. -/
def maxApdu : Nat := 1476

/-- Whether a reply is of interest to everyone. -/
def isDiscovery : Reply → Bool
  | iAm _ | iHave _ => true
  | _ => false

/-- How large the APDU of a reply may be. -/
def limit : Reply → Nat
  | readPropertyAck requester .. | readPropertyMultipleAck requester _ =>
    min requester.maxApdu maxApdu
  | _ => maxApdu

/-- The whole APDU, if there is one. -/
def encode? : Reply → Option Encoding
  | silence => none
  | iAm a => some a.encode
  | iHave a => some a.encode
  | readPropertyAck requester _ a => some (a.encode requester.invokeId)
  | readPropertyMultipleAck requester a => some (a.encode requester.invokeId)
  | error e => some e.encode
  | reject r => some r.encode

/-- The error of a service, by class and code. -/
def errorOf (requester : Requester) (service : UInt8) (errorClass : ErrorClass)
    (errorCode : ErrorCode) : Reply :=
  error ⟨requester.invokeId, service, errorClass.code, errorCode.code⟩

end Reply

end Bacnet
