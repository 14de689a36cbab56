import Bacnet.Identifier.ObjectId
import Bacnet.Object.Datatype
import Bacnet.Template.Setting

set_option autoImplicit false

/-! # What can be wrong with a configuration -/

namespace Bacnet

/-- Why a setting does not do for what it is set for. -/
inductive SettingFault where
  /-- A device cannot have this instance number. -/
  | instanceOutside (n : UInt32)
  /-- A name has to be a text with something in it. -/
  | notAName
  /-- An object says that it is of another type than its record. -/
  | otherType
  /-- An identifier has to be an instance number, or one behind the type of the object. -/
  | notAnInstance
  /-- The setting is no value of the datatype. -/
  | notOfDatatype (setting : Setting) (datatype : Datatype)
deriving Repr

def SettingFault.message : SettingFault → String
  | instanceOutside n => "instance " ++ toString n.toNat ++ " is outside 0..4194303"
  | notAName => "expected a non-empty string"
  | otherType => "does not match the record's type"
  | notAnInstance => "expected an instance number below 4194303"
  | notOfDatatype setting datatype =>
    setting.label ++ " is not a valid " ++ datatype.label

/-- What is wrong with a configuration. -/
inductive ConfigError where
  /-- The text of a template is not of the form of a template. -/
  | malformed
  /-- No device can hold objects of the type. -/
  | unknownObjectType (name : String)
  /-- Objects of the type have no such property. -/
  | unknownProperty (objectType : ObjectType) (key : String)
  /-- The property follows from the model. -/
  | computedProperty (key : String)
  /-- The setting does not do. -/
  | invalidValue (key : String) (fault : SettingFault)
  /-- A record of the type does not say which object it is. -/
  | missingIdentifier (objectType : ObjectType)
  /-- The record of the object does not name it. -/
  | missingName (id : ObjectId)
  /-- The identifier is taken. -/
  | duplicateIdentifier (id : ObjectId)
  /-- The name is taken. -/
  | duplicateName (name : String)
deriving Repr

def ConfigError.message : ConfigError → String
  | malformed => "invalid template JSON"
  | unknownObjectType name => "unknown object type `" ++ name ++ "`"
  | unknownProperty objectType key =>
    objectType.label ++ " objects have no property `" ++ key ++ "`"
  | computedProperty key => "property `" ++ key ++ "` is computed and cannot be configured"
  | invalidValue key fault => "bad value for `" ++ key ++ "`: " ++ fault.message
  | missingIdentifier objectType => objectType.label ++ " record has no object identifier"
  | missingName id => "object " ++ id.label ++ " has no object name"
  | duplicateIdentifier id => "object identifier " ++ id.label ++ " registered twice"
  | duplicateName name => "object name `" ++ name ++ "` registered twice"

end Bacnet
