import Bacnet.Apdu
import Bacnet.Service.Parameter

set_option autoImplicit false

/-! # Discovery: Who-Is, I-Am, Who-Has, I-Have

Unconfirmed services by which devices find each other and each other's objects. The questions may be
limited to a range of device instances; the answers carry application-tagged fields. -/

namespace Bacnet

/-! ## Ranges -/

/-- A range of device instances, both ends included. The two limits travel together. -/
structure DeviceRange where
  low : UInt32
  high : UInt32
deriving DecidableEq, Repr

namespace DeviceRange

/-- Whether an instance lies in the range. -/
def contains (range : DeviceRange) (instanceNumber : UInt32) : Bool :=
  range.low ≤ instanceNumber && instanceNumber ≤ range.high

/-- Whether an instance is meant by a question; a question without a range means all. -/
def admits (range : Option DeviceRange) (instanceNumber : UInt32) : Bool :=
  range.all (·.contains instanceNumber)

/-- The limits as the first two parameters. -/
def encode (range : DeviceRange) : Encoding :=
  Parameter.encodeUnsigned 0 range.low ++ Parameter.encodeUnsigned 1 range.high

/-- The limits of a question that has them. -/
def encodeOptional (range : Option DeviceRange) : Encoding := range.elim .empty encode

/-- Reads the limits if the first of them is next. -/
def decodeOptional : Decode (Option DeviceRange) := do
  match ← Parameter.decodeOptional 0 with
  | none => return none
  | some low => return some ⟨low, ← Parameter.decodeUnsigned 1⟩

end DeviceRange

/-! ## Who-Is and I-Am -/

/-- The question which devices there are. -/
structure WhoIs where
  range : Option DeviceRange
deriving DecidableEq, Repr

namespace WhoIs

def service : UInt8 := 0x08

/-- Whether a device should answer. -/
def admits (q : WhoIs) (instanceNumber : UInt32) : Bool := DeviceRange.admits q.range instanceNumber

def encode (q : WhoIs) : Encoding :=
  UnconfirmedHeader.encode service ++ DeviceRange.encodeOptional q.range

/-- Reads the body, which has to be all that is left. -/
def decodeBody : Decode WhoIs := do
  let range ← DeviceRange.decodeOptional
  Decode.expectEnd
  return ⟨range⟩

end WhoIs

/-- A device says that it is there. -/
structure IAm where
  deviceId : ObjectId
  maxApdu : UInt32
  segmentation : UInt32
  vendorId : UInt32
deriving DecidableEq, Repr

namespace IAm

def service : UInt8 := 0x00

def encode (a : IAm) : Encoding :=
  UnconfirmedHeader.encode service ++
    Contents.encodeWord32 (.application .objectId) a.deviceId.raw ++
    Contents.encodeUnsigned (.application .unsignedInt) a.maxApdu ++
    Contents.encodeUnsigned (.application .enumerated) a.segmentation ++
    Contents.encodeUnsigned (.application .unsignedInt) a.vendorId

def decodeBody : Decode IAm := do
  let deviceId ← Contents.decodeAppObjectId
  let maxApdu ← Contents.decodeAppUnsigned
  let segmentation ← Contents.decodeAppEnumerated
  let vendorId ← Contents.decodeAppUnsigned
  return ⟨⟨deviceId⟩, maxApdu, segmentation, vendorId⟩

end IAm

/-! ## Who-Has and I-Have -/

/-- How a question names an object. -/
inductive Wanted where
  | byId (id : ObjectId)
  | byName (name : String)
deriving DecidableEq, Repr

/-- The question which device has an object. -/
structure WhoHas where
  range : Option DeviceRange
  wanted : Wanted
deriving DecidableEq, Repr

namespace WhoHas

def service : UInt8 := 0x07

/-- Whether a device should look for the object. -/
def admits (q : WhoHas) (instanceNumber : UInt32) : Bool :=
  DeviceRange.admits q.range instanceNumber

/-- The identifier as the third parameter or the name as the fourth. -/
def encodeWanted : Wanted → Encoding
  | .byId id => Parameter.encodeObjectId 2 id
  | .byName name => Parameter.encodeText 3 name

def encode (q : WhoHas) : Encoding :=
  UnconfirmedHeader.encode service ++ DeviceRange.encodeOptional q.range ++ encodeWanted q.wanted

/-- Reads the identifier or the name, whichever the next tag announces. -/
def decodeWanted : Decode Wanted := do
  match ← Tag.peek with
  | .context 2 _ => .byId <$> Parameter.decodeObjectId 2
  | .context 3 _ => .byName <$> (Tag.expectContext 3 >>= Contents.decodeText)
  | _ => throw .invalidTag

/-- Reads the body, which has to be all that is left. -/
def decodeBody : Decode WhoHas := do
  let range ← DeviceRange.decodeOptional
  let wanted ← decodeWanted
  Decode.expectEnd
  return ⟨range, wanted⟩

end WhoHas

/-- A device says that it has an object. -/
structure IHave where
  deviceId : ObjectId
  objectId : ObjectId
  objectName : String
deriving DecidableEq, Repr

namespace IHave

def service : UInt8 := 0x01

def encode (a : IHave) : Encoding :=
  UnconfirmedHeader.encode service ++
    Contents.encodeWord32 (.application .objectId) a.deviceId.raw ++
    Contents.encodeWord32 (.application .objectId) a.objectId.raw ++
    Contents.encodeText (.application .characterString) a.objectName

def decodeBody : Decode IHave := do
  let deviceId ← Contents.decodeAppObjectId
  let objectId ← Contents.decodeAppObjectId
  let objectName ← Contents.decodeAppText
  return ⟨⟨deviceId⟩, ⟨objectId⟩, objectName⟩

end IHave

end Bacnet
