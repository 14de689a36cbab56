import Bacnet.Identifier.ObjectType

set_option autoImplicit false

/-! # Object identifiers

An object identifier is one word: ten bits of object type over 22 bits of instance number. -/

namespace Bacnet

/-- The identifier of an object, as the word that travels. -/
structure ObjectId where
  raw : UInt32
deriving DecidableEq, Repr, Hashable

namespace ObjectId

/-- The instance number by which a request addresses whichever device receives it. -/
def wildcardInstance : UInt32 := 0x3FFFFF

/-- The identifier with a type and an instance number, each cut to its bits. -/
def ofParts (objectType : ObjectType) (instanceNumber : UInt32) : ObjectId :=
  ⟨(objectType.code.toUInt32 &&& 0x3FF) <<< 22 ||| instanceNumber &&& wildcardInstance⟩

/-- The object type in the upper ten bits. -/
def objectType (id : ObjectId) : ObjectType := ⟨(id.raw >>> 22).toUInt16⟩

/-- The instance number in the lower 22 bits. -/
def instanceNumber (id : ObjectId) : UInt32 := id.raw &&& wildcardInstance

/-- Whether this addresses whichever device receives it. -/
def isDeviceWildcard (id : ObjectId) : Bool :=
  id.objectType == .device && id.instanceNumber == wildcardInstance

/-- The type and the instance number with a colon between them. -/
def label (id : ObjectId) : String := id.objectType.label ++ ":" ++ toString id.instanceNumber.toNat

end ObjectId

end Bacnet
