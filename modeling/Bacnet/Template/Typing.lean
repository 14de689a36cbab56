import Bacnet.Identifier.ObjectId
import Bacnet.Number.Decimal
import Bacnet.Object.ConfigError
import Bacnet.Object.Enumeration
import Bacnet.Template.Key

set_option autoImplicit false

/-! # Typing: settings as values of a datatype

The datatype of a property decides how its setting is read, so a number may be written as a number
or as a text, a two-state value as a word or as a truth value, and bits as a list or as a row of
digits. -/

namespace Bacnet

/-- A text up to the first of a character, and behind it. -/
def splitOnce (separator : Char) (text : List Char) : Option (List Char × List Char) :=
  let front := text.takeWhile (· ≠ separator)
  match text.drop front.length with
  | [] => none
  | _ :: back => some (front, back)

/-- The type of object that a text names in any spelling. -/
def ObjectType.ofText? (text : List Char) : Option ObjectType :=
  ObjectType.ofName? (normalizeKey (.ofList text))

/-- The identifier that a text spells: a type and an instance number, with a colon or else a comma
    between them. -/
def ObjectId.ofText? (text : List Char) : Option ObjectId := do
  let (type, number) ← (splitOnce ':' text).or (splitOnce ',' text)
  let objectType ← ObjectType.ofText? type
  let number ← uint32OfText? (trimmed number)
  if ObjectId.wildcardInstance < number then none
  else some (.ofParts objectType number)

namespace Setting

/-! ## Simple datatypes -/

/-- The setting as a text without the blanks around it. -/
def trimmedText? : Setting → Option (List Char)
  | text s => some (trimmed s.toList)
  | _ => none

/-- The truth value that a word stands for. -/
def boolOfWord? (word : List Char) : Option Bool :=
  match String.ofList word with
  | "true" => some true
  | "false" => some false
  | _ => none

def toBool? : Setting → Option Bool
  | boolean b => some b
  | setting => setting.trimmedText?.bind boolOfWord?

def toUInt32? : Setting → Option UInt32
  | integer n => if 0 ≤ n ∧ n < 0x100000000 then some (.ofNat n.toNat) else none
  | setting => setting.trimmedText?.bind uint32OfText?

def toInt32? : Setting → Option Int32
  | integer n => if -0x80000000 ≤ n ∧ n < 0x80000000 then some (.ofInt n) else none
  | setting => setting.trimmedText?.bind int32OfText?

/-- The setting as the bits of a floating-point number. -/
def toBits? (f : BinaryFormat) : Setting → Option Nat
  | integer n => some (f.ofInt n)
  | float bits => some (f.ofBits .double bits.toNat)
  | setting => setting.trimmedText?.bind f.ofText?

/-- The setting as the code of an enumerated property: a truth value, a name in any spelling, or a
    number. -/
def toCode? (p : PropertyId) : Setting → Option UInt32
  | boolean b => some b.toUInt32
  | integer n => (integer n).toUInt32?
  | setting =>
    setting.trimmedText?.bind fun name =>
      (Enumeration.code? p (normalizeKey (.ofList name))).or (uint32OfText? name)

/-- The setting as one bit. -/
def toBit? : Setting → Option Bool
  | boolean b => some b
  | integer 0 => some false
  | integer 1 => some true
  | _ => none

/-- The bit that a digit stands for. -/
def bitOfDigit? : Char → Option Bool
  | '0' => some false
  | '1' => some true
  | _ => none

def toBitString? : Setting → Option BitString
  | list items => (items.mapM toBit?).map .ofBits
  | setting => setting.trimmedText?.bind fun digits => (digits.mapM bitOfDigit?).map .ofBits

/-! ## All datatypes -/

/-- The setting as a value of a datatype that is no array. -/
def toSimple? (p : PropertyId) (setting : Setting) : Datatype → Option Value
  | .boolean => setting.toBool?.map .boolean
  | .unsigned => setting.toUInt32?.map .unsigned
  | .signed => setting.toInt32?.map .signed
  | .real => (setting.toBits? .single).map (.real <| .ofNat ·)
  | .double => (setting.toBits? .double).map (.double <| .ofNat ·)
  | .characterString =>
    match setting with
    | text s => some (.characterString s)
    | _ => none
  | .enumerated => (setting.toCode? p).map .enumerated
  | .objectId =>
    match setting with
    | text s => (ObjectId.ofText? s.toList).map .objectId
    | _ => none
  | .bitString => setting.toBitString?.map .bitString
  | .arrayOf _ => none

/-- The setting as a value of a property's datatype. An array fails as the first of its elements
    that fails. -/
def toValue (p : PropertyId) : Datatype → Setting → Except SettingFault Value
  | .arrayOf element, list items => Value.list <$> items.mapM (toValue p element)
  | datatype, setting =>
    match setting.toSimple? p datatype with
    | some value => .ok value
    | none => .error (.notOfDatatype setting datatype)

/-! ## Identifiers -/

/-- The setting as the instance number of an object of a type: a number, or a text of one, which may
    stand behind the type and a colon. -/
def toInstance? (objectType : ObjectType) : Setting → Option UInt32
  | integer n => (integer n).toUInt32?
  | text s =>
    match splitOnce ':' s.toList with
    | some (type, number) =>
      if ObjectType.ofText? type = some objectType then uint32OfText? (trimmed number) else none
    | none => uint32OfText? (trimmed s.toList)
  | _ => none

/-- The same, where only numbers below the one that every device answers to can be configured. -/
def toOwnInstance? (objectType : ObjectType) (setting : Setting) : Option UInt32 :=
  (setting.toInstance? objectType).filter (· < ObjectId.wildcardInstance)

end Setting

end Bacnet
