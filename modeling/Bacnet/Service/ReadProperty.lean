import Bacnet.Apdu
import Bacnet.Identifier.PropertyId
import Bacnet.Service.Parameter
import Bacnet.Value.Codec

set_option autoImplicit false

/-! # Read-Property: one property of one object -/

namespace Bacnet

/-- The question for a property, or for one element of it. -/
structure ReadProperty where
  objectId : ObjectId
  property : PropertyId
  index : Option UInt32
deriving DecidableEq, Repr

namespace ReadProperty

def service : UInt8 := 0x0C

/-- What is asked for: the first three parameters of the question and of its answer. -/
def encodeReference (q : ReadProperty) : Encoding :=
  Parameter.encodeObjectId 0 q.objectId ++ Parameter.encodeUnsigned 1 q.property.code ++
    Parameter.encodeOptional 2 q.index

def encode (q : ReadProperty) (invokeId : UInt8) : Encoding :=
  (ConfirmedHeader.unsegmented invokeId service).encode ++ q.encodeReference

def decodeReference : Decode ReadProperty := do
  let objectId ← Parameter.decodeObjectId 0
  let property ← Parameter.decodeUnsigned 1
  let index ← Parameter.decodeOptional 2
  return ⟨objectId, ⟨property⟩, index⟩

/-- Reads the body, which has to be all that is left. -/
def decodeBody : Decode ReadProperty := do
  let q ← decodeReference
  Decode.expectEnd
  return q

end ReadProperty

/-- The answer: what was asked for, and its value. -/
structure ReadPropertyAck where
  reference : ReadProperty
  value : Value
deriving Repr

namespace ReadPropertyAck

def encode (a : ReadPropertyAck) (invokeId : UInt8) : Encoding :=
  (ComplexAckHeader.mk invokeId ReadProperty.service).encode ++ a.reference.encodeReference ++
    .bracketed 3 a.value.encode

def decodeBody : Decode ReadPropertyAck := do
  let reference ← ReadProperty.decodeReference
  Tag.expect (.opening 3)
  let value ← Value.decodeUntilClosing 3
  return ⟨reference, value⟩

end ReadPropertyAck

end Bacnet
