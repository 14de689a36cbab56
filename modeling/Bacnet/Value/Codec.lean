import Bacnet.Contents
import Bacnet.Value

set_option autoImplicit false

/-! # Values on the wire

A value is written as its datatype's application tag and its contents, a list as its items back to
back. So a list leaves no trace of its own: between an opening and a closing tag, one value reads
back as itself and any other number of values as a list. -/

namespace Bacnet.Value

/-! ## Writing -/

mutual

/-- The application-tagged form of a value. -/
def encode : Value → Encoding
  | null => (Tag.application .null 0).encode
  | boolean b => (Tag.application .boolean b.toUInt32).encode
  | unsigned n => Contents.encodeUnsigned (.application .unsignedInt) n
  | signed n => Contents.encodeSigned (.application .signedInt) n
  | real bits => Contents.encodeWord32 (.application .real) bits
  | double bits => Contents.encodeWord64 (.application .double) bits
  | characterString text => Contents.encodeText (.application .characterString) text
  | bitString bits =>
    if 7 < bits.unusedBits then .fail .valueOutOfRange
    else Contents.encodeHeaded (.application .bitString) bits.unusedBits bits.octets
  | enumerated code => Contents.encodeUnsigned (.application .enumerated) code
  | objectId id => Contents.encodeWord32 (.application .objectId) id.raw
  | list items => encodeAll items

/-- The application-tagged forms of values, back to back. -/
def encodeAll : List Value → Encoding
  | [] => .empty
  | item :: items => encode item ++ encodeAll items

end

/-! ## Reading -/

/-- Reads the contents of a bit string. -/
def decodeBitString (length : Nat) : Decode BitString := do
  match ← Decode.octets length with
  | [] => throw .invalidLength
  | unusedBits :: octets =>
    if 7 < unusedBits then throw .invalidValue
    return ⟨unusedBits, octets⟩

/-- Reads what follows an application tag. Octet strings, dates and times are not handled. -/
def decodeContents (tag : AppTag) (length : UInt32) : Decode Value :=
  match tag with
  | .null => return null
  | .boolean => return boolean (length != 0)
  | .unsignedInt => unsigned <$> Contents.decodeUnsigned length.toNat
  | .signedInt => signed <$> Contents.decodeSigned length.toNat
  | .real => real <$> Contents.decodeWord32 length.toNat
  | .double => double <$> Contents.decodeWord64 length.toNat
  | .characterString => characterString <$> Contents.decodeText length.toNat
  | .bitString => bitString <$> decodeBitString length.toNat
  | .enumerated => enumerated <$> Contents.decodeUnsigned length.toNat
  | .objectId => (objectId ⟨·⟩) <$> Contents.decodeWord32 length.toNat
  | .octetString | .date | .time => throw .unsupported

/-- Reads the value whose tag has been read; only application tags start one. -/
def decodeBehind : Tag → Decode Value
  | .application tag length => decodeContents tag length
  | .context .. | .opening _ | .closing _ => throw .unsupported

/-- Reads an application-tagged value. -/
def decode : Decode Value := do
  decodeBehind (← Tag.decode)

/-- What a run of values is taken for: one value for itself, any other number for a list. -/
def ofRun : List Value → Value
  | [value] => value
  | values => list values

/-- Reads a value, or the closing tag with a number. -/
def decodeUnlessClosing (number : UInt8) : Decode (Option Value) := do
  let tag ← Tag.decode
  if tag = .closing number then return none
  some <$> decodeBehind tag

/-- Reads values and the closing tag behind them. -/
def decodeUntilClosing (number : UInt8) : Decode Value :=
  ofRun <$> Decode.many (decodeUnlessClosing number)

end Bacnet.Value
