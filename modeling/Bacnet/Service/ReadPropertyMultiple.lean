import Bacnet.Service.ReadProperty

set_option autoImplicit false

/-! # Read-Property-Multiple: many properties of many objects

The question lists objects and, for each, references to its properties; the answer lists objects
and, for each, a value or an error for every property that was read. -/

namespace Bacnet

/-- A property of the object at hand, or one element of it. -/
structure PropertyReference where
  property : PropertyId
  index : Option UInt32
deriving DecidableEq, Repr

/-- An object and what is asked of it. -/
structure AccessSpec where
  objectId : ObjectId
  references : List PropertyReference
deriving DecidableEq, Repr

/-- The question for properties of objects. -/
structure ReadPropertyMultiple where
  specs : List AccessSpec
deriving DecidableEq, Repr

/-! ## The question -/

namespace PropertyReference

def encode (ref : PropertyReference) : Encoding :=
  Parameter.encodeUnsigned 0 ref.property.code ++ Parameter.encodeOptional 1 ref.index

def decode : Decode PropertyReference := do
  let property ← Parameter.decodeUnsigned 0
  let index ← Parameter.decodeOptional 1
  return ⟨⟨property⟩, index⟩

end PropertyReference

/-- Reads items up to the closing tag with a number, and the tag. -/
def Decode.manyUntilClosing {α : Type} (number : UInt8) (item : Decode α) : Decode (List α) := do
  let items ← Decode.many do
    if (← Tag.peek) = .closing number then return none
    some <$> item
  let _ ← Tag.decode
  return items

/-- Reads items up to the end of the input. -/
def Decode.manyUntilEnd {α : Type} (item : Decode α) : Decode (List α) :=
  Decode.many do
    if ← Decode.atEnd then return none
    some <$> item

namespace AccessSpec

/-- The object and its references between brackets. -/
def encode (spec : AccessSpec) : Encoding :=
  Parameter.encodeObjectId 0 spec.objectId ++
    .bracketed 1 (.concat (spec.references.map (·.encode)))

/-- Reads an object and what is asked of it, which must be something. -/
def decode : Decode AccessSpec := do
  let objectId ← Parameter.decodeObjectId 0
  Tag.expect (.opening 1)
  let references ← Decode.manyUntilClosing 1 PropertyReference.decode
  if references.isEmpty then throw .invalidValue
  return ⟨objectId, references⟩

end AccessSpec

namespace ReadPropertyMultiple

def service : UInt8 := 0x0E

def encode (q : ReadPropertyMultiple) (invokeId : UInt8) : Encoding :=
  (ConfirmedHeader.unsegmented invokeId service).encode ++ .concat (q.specs.map (·.encode))

/-- Reads the body, which must ask for something. -/
def decodeBody : Decode ReadPropertyMultiple := do
  let specs ← Decode.manyUntilEnd AccessSpec.decode
  if specs.isEmpty then throw .unexpectedEnd
  return ⟨specs⟩

end ReadPropertyMultiple

/-! ## The answer -/

/-- Why a property could not be read. -/
structure AccessError where
  errorClass : UInt32
  errorCode : UInt32
deriving DecidableEq, Repr

/-- The error of a class with a code. -/
def AccessError.ofCodes (errorClass : ErrorClass) (errorCode : ErrorCode) : AccessError :=
  ⟨errorClass.code, errorCode.code⟩

/-- A property and what came of reading it. -/
structure AccessElement where
  reference : PropertyReference
  result : Except AccessError Value
deriving Repr

/-- An object and what came of reading its properties. -/
structure AccessResult where
  objectId : ObjectId
  elements : List AccessElement
deriving Repr

/-- The answer for properties of objects. -/
structure ReadPropertyMultipleAck where
  results : List AccessResult
deriving Repr

namespace AccessError

def encode (e : AccessError) : Encoding :=
  Contents.encodeUnsigned (.application .enumerated) e.errorClass ++
    Contents.encodeUnsigned (.application .enumerated) e.errorCode

def decode : Decode AccessError := do
  let errorClass ← Contents.decodeAppEnumerated
  let errorCode ← Contents.decodeAppEnumerated
  return ⟨errorClass, errorCode⟩

end AccessError

namespace AccessElement

/-- The value between one pair of brackets or the error between another. -/
def encodeResult : Except AccessError Value → Encoding
  | .ok value => .bracketed 4 value.encode
  | .error e => .bracketed 5 e.encode

def encode (element : AccessElement) : Encoding :=
  Parameter.encodeUnsigned 2 element.reference.property.code ++
    Parameter.encodeOptional 3 element.reference.index ++ encodeResult element.result

/-- Reads a value or an error with its brackets. -/
def decodeResult : Decode (Except AccessError Value) := do
  match ← Tag.decode with
  | .opening 4 => .ok <$> Value.decodeUntilClosing 4
  | .opening 5 =>
    let e ← AccessError.decode
    Tag.expect (.closing 5)
    return .error e
  | _ => throw .invalidTag

def decode : Decode AccessElement := do
  let property ← Parameter.decodeUnsigned 2
  let index ← Parameter.decodeOptional 3
  let result ← decodeResult
  return ⟨⟨⟨property⟩, index⟩, result⟩

end AccessElement

namespace AccessResult

/-- The object and its elements between brackets. -/
def encode (result : AccessResult) : Encoding :=
  Parameter.encodeObjectId 0 result.objectId ++
    .bracketed 1 (.concat (result.elements.map (·.encode)))

def decode : Decode AccessResult := do
  let objectId ← Parameter.decodeObjectId 0
  Tag.expect (.opening 1)
  let elements ← Decode.manyUntilClosing 1 AccessElement.decode
  return ⟨objectId, elements⟩

end AccessResult

namespace ReadPropertyMultipleAck

def encode (a : ReadPropertyMultipleAck) (invokeId : UInt8) : Encoding :=
  (ComplexAckHeader.mk invokeId ReadPropertyMultiple.service).encode ++
    .concat (a.results.map (·.encode))

/-- Reads the body, up to its end. -/
def decodeBody : Decode ReadPropertyMultipleAck := do
  return ⟨← Decode.manyUntilEnd AccessResult.decode⟩

end ReadPropertyMultipleAck

end Bacnet
