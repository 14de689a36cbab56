import Bacnet.Code
import Bacnet.Identifier.PropertyId
import Bacnet.Object.Datatype

set_option autoImplicit false

/-! # Schemas: which properties the objects of a type have

Every type of object that a device can hold has a table of its properties with their datatypes. The
order of the table is the order in which all properties of an object are listed. Some properties
follow from the object itself and are never configured; the others have a default if every object of
the type must carry them. -/

namespace Bacnet

/-! ## Properties -/

/-- A property as a type of object declares it. -/
structure PropertySpec where
  property : PropertyId
  datatype : Datatype
  required : Bool
deriving DecidableEq, Repr

namespace PropertyId

/-- Whether a property follows from the object alone: what it is and what it has. -/
def isIdentity (p : PropertyId) : Bool :=
  p == objectIdentifier || p == objectName || p == objectType || p == propertyList

/-- Whether a property follows from the model and is never configured. -/
def isComputed (p : PropertyId) : Bool := p.isIdentity || p == objectList

end PropertyId

/-! ## Types of objects -/

/-- The properties of a type of object, in order. -/
structure Schema where
  objectType : ObjectType
  specs : List PropertySpec
deriving DecidableEq, Repr

namespace Schema

/-- A property that every object of a type has. -/
def must (property : PropertyId) (datatype : Datatype) : PropertySpec := ⟨property, datatype, true⟩

/-- A property that an object of a type may have. -/
def may (property : PropertyId) (datatype : Datatype) : PropertySpec := ⟨property, datatype, false⟩

/-- The schema of a type with its own properties: in front of them stands what identifies an object,
    behind them the list of the properties. -/
def ofOwn (objectType : ObjectType) (own : List PropertySpec) : Schema :=
  ⟨objectType,
    [must .objectIdentifier .objectId, must .objectName .characterString,
      must .objectType .enumerated] ++ own ++ [must .propertyList (.arrayOf .enumerated)]⟩

/-- Devices. -/
def device : Schema := ofOwn .device [
  must .systemStatus .enumerated,
  must .vendorName .characterString,
  must .vendorIdentifier .unsigned,
  must .modelName .characterString,
  must .firmwareRevision .characterString,
  must .applicationSoftwareVersion .characterString,
  may .location .characterString,
  may .description .characterString,
  must .protocolVersion .unsigned,
  must .protocolRevision .unsigned,
  must .protocolServicesSupported .bitString,
  must .protocolObjectTypesSupported .bitString,
  must .objectList (.arrayOf .objectId),
  must .maxApduLengthAccepted .unsigned,
  must .segmentationSupported .enumerated,
  must .apduTimeout .unsigned,
  must .numberOfApduRetries .unsigned,
  must .databaseRevision .unsigned]

/-- Analog inputs. -/
def analogInput : Schema := ofOwn .analogInput [
  must .presentValue .real,
  may .description .characterString,
  may .deviceType .characterString,
  must .statusFlags .bitString,
  must .eventState .enumerated,
  may .reliability .enumerated,
  must .outOfService .boolean,
  must .units .enumerated,
  may .minPresValue .real,
  may .maxPresValue .real,
  may .resolution .real,
  may .covIncrement .real]

/-- Analog outputs. -/
def analogOutput : Schema := ofOwn .analogOutput [
  must .presentValue .real,
  may .description .characterString,
  may .deviceType .characterString,
  must .statusFlags .bitString,
  must .eventState .enumerated,
  may .reliability .enumerated,
  must .outOfService .boolean,
  must .units .enumerated,
  may .minPresValue .real,
  may .maxPresValue .real,
  may .resolution .real,
  must .relinquishDefault .real,
  may .covIncrement .real]

/-- Analog values. -/
def analogValue : Schema := ofOwn .analogValue [
  must .presentValue .real,
  may .description .characterString,
  must .statusFlags .bitString,
  must .eventState .enumerated,
  may .reliability .enumerated,
  must .outOfService .boolean,
  must .units .enumerated,
  may .relinquishDefault .real,
  may .covIncrement .real]

/-- Binary inputs. -/
def binaryInput : Schema := ofOwn .binaryInput [
  must .presentValue .enumerated,
  may .description .characterString,
  may .deviceType .characterString,
  must .statusFlags .bitString,
  must .eventState .enumerated,
  may .reliability .enumerated,
  must .outOfService .boolean,
  must .polarity .enumerated,
  may .inactiveText .characterString,
  may .activeText .characterString]

/-- Binary outputs. -/
def binaryOutput : Schema := ofOwn .binaryOutput [
  must .presentValue .enumerated,
  may .description .characterString,
  may .deviceType .characterString,
  must .statusFlags .bitString,
  must .eventState .enumerated,
  may .reliability .enumerated,
  must .outOfService .boolean,
  must .polarity .enumerated,
  may .inactiveText .characterString,
  may .activeText .characterString,
  must .relinquishDefault .enumerated]

/-- Binary values. -/
def binaryValue : Schema := ofOwn .binaryValue [
  must .presentValue .enumerated,
  may .description .characterString,
  must .statusFlags .bitString,
  must .eventState .enumerated,
  may .reliability .enumerated,
  must .outOfService .boolean,
  may .inactiveText .characterString,
  may .activeText .characterString,
  may .relinquishDefault .enumerated]

/-- Multi-state inputs. -/
def multiStateInput : Schema := ofOwn .multiStateInput [
  must .presentValue .unsigned,
  may .description .characterString,
  may .deviceType .characterString,
  must .statusFlags .bitString,
  must .eventState .enumerated,
  may .reliability .enumerated,
  must .outOfService .boolean,
  must .numberOfStates .unsigned,
  may .stateText (.arrayOf .characterString)]

/-- Multi-state outputs. -/
def multiStateOutput : Schema := ofOwn .multiStateOutput [
  must .presentValue .unsigned,
  may .description .characterString,
  may .deviceType .characterString,
  must .statusFlags .bitString,
  must .eventState .enumerated,
  may .reliability .enumerated,
  must .outOfService .boolean,
  must .numberOfStates .unsigned,
  may .stateText (.arrayOf .characterString),
  must .relinquishDefault .unsigned]

/-- Multi-state values. -/
def multiStateValue : Schema := ofOwn .multiStateValue [
  must .presentValue .unsigned,
  may .description .characterString,
  must .statusFlags .bitString,
  must .eventState .enumerated,
  may .reliability .enumerated,
  must .outOfService .boolean,
  must .numberOfStates .unsigned,
  may .stateText (.arrayOf .characterString),
  may .relinquishDefault .unsigned]

/-- The schemas of all types that a device can hold, its own first. -/
def all : List Schema :=
  [device, analogInput, analogOutput, analogValue, binaryInput, binaryOutput, binaryValue,
    multiStateInput, multiStateOutput, multiStateValue]

/-! ## Look-up -/

/-- The schema of a type of object, if a device can hold such objects. -/
def ofType? (t : ObjectType) : Option Schema := all.find? (·.objectType == t)

/-- A property as a schema declares it. -/
def spec? (s : Schema) (p : PropertyId) : Option PropertySpec := s.specs.find? (·.property == p)

/-- The properties that every object has. -/
def required (s : Schema) : List PropertySpec := s.specs.filter (·.required)

/-- The datatype of a property in the first schema that has it. -/
def datatype? (p : PropertyId) : Option Datatype :=
  (all.findSome? (·.spec? p)).map (·.datatype)

/-- The value that stands for a property that an object lacks: the empty value of its datatype here,
    or else of its datatype in any schema, or else the null value. -/
def emptyValue (s : Schema) (p : PropertyId) : Value :=
  (((s.spec? p).map (·.datatype)).or (datatype? p)).elim .null (·.emptyValue)

/-! ## Defaults -/

/-- The code of a quantity without a unit. -/
def noUnits : UInt32 := 95

/-- The numbers of the services that are executed: reading one property and many, and the questions
    for objects and for devices. -/
def servicesExecuted : List Nat := [12, 14, 33, 34]

/-- The services that are executed, as bits. -/
def servicesSupported : BitString := .ofBits ((List.range 49).map servicesExecuted.contains)

/-- The types of object that a device can hold, as bits. -/
def objectTypesSupported : BitString :=
  .ofBits ((List.range 60).map fun code => all.any (·.objectType.code.toNat == code))

end Schema

/-- The value of a required property that is not configured. -/
def PropertySpec.defaultValue (spec : PropertySpec) : Value :=
  if spec.property = .statusFlags then .bitString (.ofBits (List.replicate 4 false))
  else if spec.property = .units then .enumerated Schema.noUnits
  else if spec.property = .numberOfStates then .unsigned 2
  else if spec.property = .protocolVersion then .unsigned 1
  else if spec.property = .protocolRevision then .unsigned 14
  else if spec.property = .maxApduLengthAccepted then .unsigned 1476
  else if spec.property = .segmentationSupported then
    .enumerated Segmentation.noSegmentation.code
  else if spec.property = .apduTimeout then .unsigned 3000
  else if spec.property = .numberOfApduRetries then .unsigned 3
  else if spec.property = .protocolServicesSupported then .bitString Schema.servicesSupported
  else if spec.property = .protocolObjectTypesSupported then
    .bitString Schema.objectTypesSupported
  else spec.datatype.emptyValue

end Bacnet
