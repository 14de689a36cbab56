import Bacnet.Object

set_option autoImplicit false

/-! # Devices: an object that owns objects

A device is an object of its own type together with the objects it owns, in the order in which they
were registered. Identifiers and names are each unique in a device, its own included, and two
directories lead from them to the places of the owned objects. -/

namespace Bacnet

/-- A device with the objects it owns. -/
structure Device where
  object : Object
  objects : List Object
  slotById : Table ObjectId Nat
  slotByName : Table String Nat
deriving Repr

/-- What a request can address. -/
inductive Target where
  | device (d : Device)
  | object (o : Object)
deriving Repr

namespace Device

/-! ## Building -/

/-- The device with an instance number and a name, its required properties at their defaults. -/
def ofInstance (n : UInt32) (name : String) : Except ConfigError Device := do
  if ObjectId.wildcardInstance ≤ n then
    throw (.invalidValue "device-identifier" (.instanceOutside n))
  let object ← Object.ofId (.ofParts .device n) name
  return ⟨object.fillDefaults, [], .empty, .empty⟩

def id (d : Device) : ObjectId := d.object.id

def instanceNumber (d : Device) : UInt32 := d.id.instanceNumber

def name (d : Device) : String := d.object.name

/-- The device with one more object, whose identifier and name must both be new to it. -/
def register (d : Device) (o : Object) : Except ConfigError Device :=
  if o.id = d.id ∨ d.slotById.contains o.id then .error (.duplicateIdentifier o.id)
  else if o.name = d.name ∨ d.slotByName.contains o.name then .error (.duplicateName o.name)
  else .ok { d with
    objects := d.objects ++ [o]
    slotById := d.slotById.set o.id d.objects.length
    slotByName := d.slotByName.set o.name d.objects.length }

/-! ## Finding -/

/-- What an identifier addresses: the device, by its own identifier or by the one that every device
    answers to, or an owned object. -/
def find? (d : Device) (id : ObjectId) : Option Target :=
  if id = d.id ∨ id.isDeviceWildcard then some (.device d)
  else ((d.slotById.get? id).bind (d.objects[·]?)).map .object

/-- The owned object with a name. -/
def findByName? (d : Device) (name : String) : Option Object :=
  (d.slotByName.get? name).bind (d.objects[·]?)

/-! ## Reading -/

/-- The identifiers of all objects: the device first, then what it owns. -/
def objectList (d : Device) : List ObjectId := d.id :: d.objects.map (·.id)

/-- Reads a property of the device, or the part of it that an index asks for. -/
def read (d : Device) (p : PropertyId) (index : Option UInt32) : Except ReadError Value :=
  if p = .objectList then (Value.list (d.objectList.map .objectId)).select p index
  else d.object.read p index

/-- The size of APDU of a device that does not say. -/
def defaultMaxApdu : UInt32 := 1476

/-- The largest APDU that the device says it takes. -/
def maxApdu (d : Device) : UInt32 :=
  match d.object.read .maxApduLengthAccepted none with
  | .ok (.unsigned octets) => octets
  | _ => defaultMaxApdu

/-- The segmentation that the device says it supports. -/
def segmentation (d : Device) : Segmentation :=
  match d.object.read .segmentationSupported none with
  | .ok (.enumerated code) => (Segmentation.ofCode? code).getD .noSegmentation
  | _ => .noSegmentation

def vendorId (d : Device) : UInt32 :=
  match d.object.read .vendorIdentifier none with
  | .ok (.unsigned vendor) => vendor
  | _ => 0

end Device

namespace Target

def record : Target → Object
  | device d => d.object
  | object o => o

def id (t : Target) : ObjectId := t.record.id

def name (t : Target) : String := t.record.name

def schema (t : Target) : Schema := t.record.schema

/-- Reads a property of a target, or the part of it that an index asks for. -/
def read (t : Target) (p : PropertyId) (index : Option UInt32) : Except ReadError Value :=
  match t with
  | device d => d.read p index
  | object o => o.read p index

end Target

end Bacnet
