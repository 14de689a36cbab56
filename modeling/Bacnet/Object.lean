import Bacnet.Object.ConfigError
import Bacnet.Object.Schema
import Bacnet.Table

set_option autoImplicit false

/-! # Objects: what a device is made of

An object has an identifier, a name, the schema of its type and a table of configured values. What
identifies it is never in the table but read off the object itself. An array is read whole or by an
index: zero is the number of its elements, and the elements are numbered from one. -/

namespace Bacnet

/-! ## Failures of reading -/

/-- Why a property cannot be read. -/
inductive ReadError where
  | unknownProperty (property : PropertyId)
  | notAnArray (property : PropertyId)
  | invalidIndex (property : PropertyId) (index : UInt32)
deriving DecidableEq, Repr

namespace ReadError

def message : ReadError → String
  | unknownProperty p => "unknown property " ++ p.label
  | notAnArray p => "property " ++ p.label ++ " is not an array"
  | invalidIndex p index =>
    "array index " ++ toString index.toNat ++ " out of range for " ++ p.label

/-- Every failure is about the property. -/
def errorClass (_ : ReadError) : ErrorClass := .property

/-- The code of a failure. -/
def errorCode : ReadError → ErrorCode
  | unknownProperty _ => .unknownProperty
  | notAnArray _ => .propertyIsNotAnArray
  | invalidIndex .. => .invalidArrayIndex

end ReadError

/-- The part of a value that an index asks for. -/
def Value.select (value : Value) (property : PropertyId) (index : Option UInt32) :
    Except ReadError Value :=
  match index with
  | none => .ok value
  | some index =>
    match value.items? with
    | none => .error (.notAnArray property)
    | some items =>
      if index = 0 then .ok (.unsigned (.ofNat (min items.length 0xFFFFFFFF)))
      else
        match items[index.toNat - 1]? with
        | none => .error (.invalidIndex property index)
        | some item => .ok item

/-! ## Objects -/

/-- An object of a type that a device can hold. -/
structure Object where
  id : ObjectId
  name : String
  schema : Schema
  properties : Table PropertyId Value
  schema_eq : Schema.ofType? id.objectType = some schema
deriving Repr

namespace Object

/-- The object with an identifier and a name and nothing configured. -/
def ofId (id : ObjectId) (name : String) : Except ConfigError Object :=
  match h : Schema.ofType? id.objectType with
  | none => .error (.unknownObjectType id.objectType.label)
  | some schema => .ok ⟨id, name, schema, .empty, h⟩

/-- The object with a value set, whatever its schema says. -/
def configure (o : Object) (p : PropertyId) (value : Value) : Object :=
  { o with properties := o.properties.set p value }

/-- The object with a value set for a property that its schema has and that can be configured. -/
def withProperty (o : Object) (p : PropertyId) (value : Value) : Except ConfigError Object :=
  if p.isComputed then .error (.computedProperty p.label)
  else
    match o.schema.spec? p with
    | none => .error (.unknownProperty o.id.objectType p.label)
    | some _ => .ok (o.configure p value)

/-- The object with the default of a property unless it has a value. -/
def fillDefault (o : Object) (spec : PropertySpec) : Object :=
  if spec.property.isComputed then o
  else { o with properties := o.properties.setDefault spec.property spec.defaultValue }

/-- The object with the defaults of all required properties that have no value. -/
def fillDefaults (o : Object) : Object := o.schema.required.foldl fillDefault o

/-! ## Reading -/

/-- Whether the list of properties of an object shows a property: what identifies the object is not
    shown, and of the rest what has a value or is computed. -/
def lists (o : Object) (p : PropertyId) : Bool :=
  !p.isIdentity && (o.properties.contains p || p.isComputed)

/-- The properties that an object shows, in the order of its schema. -/
def propertyList (o : Object) : List PropertyId :=
  (o.schema.specs.map (·.property)).filter o.lists

/-- The whole value of a property. -/
def whole? (o : Object) (p : PropertyId) : Option Value :=
  if p = .objectIdentifier then some (.objectId o.id)
  else if p = .objectName then some (.characterString o.name)
  else if p = .objectType then some (.enumerated o.id.objectType.code.toUInt32)
  else if p = .propertyList then some (.list (o.propertyList.map (.enumerated ·.code)))
  else o.properties.get? p

/-- Reads a property, or the part of it that an index asks for. -/
def read (o : Object) (p : PropertyId) (index : Option UInt32) : Except ReadError Value :=
  match o.whole? p with
  | none => .error (.unknownProperty p)
  | some value => value.select p index

end Object

end Bacnet
