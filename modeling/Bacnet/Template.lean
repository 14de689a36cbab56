import Bacnet.Device
import Bacnet.Template.Typing

set_option autoImplicit false

/-! # Templates: a device as plain data

A template is a list of records for the device and one for each object: a key and a setting. Some
keys say which object the records are about; every other key must name a property that the type of
object has, and its setting is read by the datatype of that property. Later records override
earlier ones. -/

namespace Bacnet

/-- A key and what is set for it. -/
structure Record where
  key : String
  setting : Setting
deriving Repr

/-- The records of an object. -/
structure ObjectRecord where
  objectType : String
  properties : List Record
deriving Repr

/-- The records of a device and of the objects it owns. -/
structure Template where
  device : List Record
  objects : List ObjectRecord
deriving Repr

/-! ## Which object the records are about -/

/-- What records say about the identity of their object. -/
structure Identity where
  instanceNumber : Option UInt32
  name : Option String
deriving DecidableEq, Repr

namespace Identity

/-- What is said before any record. -/
def unsaid : Identity := ⟨none, none⟩

/-- What is said with one more record. -/
def add (objectType : ObjectType) (identity : Identity) (record : Record) :
    Except ConfigError Identity :=
  match Key.ofText? record.key with
  | some .identifier =>
    match record.setting.toOwnInstance? objectType with
    | some n => .ok { identity with instanceNumber := some n }
    | none => .error (.invalidValue record.key .notAnInstance)
  | some .name =>
    match record.setting with
    | .text name =>
      if name.isEmpty then .error (.invalidValue record.key .notAName)
      else .ok { identity with name := some name }
    | _ => .error (.invalidValue record.key .notAName)
  | some .type =>
    match record.setting with
    | .text name =>
      if ObjectType.ofText? name.toList = some objectType then .ok identity
      else .error (.invalidValue record.key .otherType)
    | _ => .error (.invalidValue record.key .otherType)
  | some (.property _) | none => .ok identity

/-- What all records say. -/
def ofRecords (objectType : ObjectType) (records : List Record) : Except ConfigError Identity :=
  records.foldlM (add objectType) unsaid

/-- The identifier and the name, both of which have to be said. -/
def resolve (objectType : ObjectType) (identity : Identity) :
    Except ConfigError (UInt32 × String) := do
  match identity.instanceNumber with
  | none => throw (.missingIdentifier objectType)
  | some n =>
    match identity.name with
    | none => throw (.missingName (.ofParts objectType n))
    | some name => return (n, name)

end Identity

/-! ## What the records configure -/

namespace Object

/-- The object with a record applied; the ones about its identity say nothing more. -/
def applyRecord (o : Object) (record : Record) : Except ConfigError Object :=
  match Key.ofText? record.key with
  | none => .error (.unknownProperty o.schema.objectType record.key)
  | some (.property p) =>
    if p.isComputed then .error (.computedProperty record.key)
    else
      match o.schema.spec? p with
      | none => .error (.unknownProperty o.schema.objectType record.key)
      | some spec =>
        match record.setting.toValue p spec.datatype with
        | .ok value => .ok (o.configure p value)
        | .error fault => .error (.invalidValue record.key fault)
  | some .identifier | some .name | some .type => .ok o

/-- The object with all records applied and its other required properties at their defaults. -/
def applyRecords (o : Object) (records : List Record) : Except ConfigError Object :=
  fillDefaults <$> records.foldlM applyRecord o

end Object

/-! ## Building -/

/-- The type that an object record is about: one that a device can own. -/
def ObjectRecord.type? (record : ObjectRecord) : Option ObjectType :=
  (ObjectType.ofText? record.objectType.toList).filter fun t =>
    (Schema.ofType? t).isSome && t != .device

/-- The object that its records describe. -/
def ObjectRecord.build (record : ObjectRecord) : Except ConfigError Object := do
  match record.type? with
  | none => throw (.unknownObjectType record.objectType)
  | some objectType =>
    let identity ← Identity.ofRecords objectType record.properties
    let (n, name) ← identity.resolve objectType
    let object ← Object.ofId (.ofParts objectType n) name
    object.applyRecords record.properties

/-- The device with one more object, from its records. -/
def Device.addRecord (d : Device) (record : ObjectRecord) : Except ConfigError Device := do
  d.register (← record.build)

namespace Template

/-- The device of its own records, with no objects yet. -/
def buildDevice (t : Template) : Except ConfigError Device := do
  let identity ← Identity.ofRecords .device t.device
  let (n, name) ← identity.resolve .device
  let device ← Device.ofInstance n name
  return { device with object := ← device.object.applyRecords t.device }

/-- The device that a template describes. -/
def build (t : Template) : Except ConfigError Device := do
  t.objects.foldlM Device.addRecord (← t.buildDevice)

end Template

end Bacnet
