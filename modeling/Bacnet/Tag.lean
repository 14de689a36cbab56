import Bacnet.Octets.Reader
import Bacnet.Octets.Writer

set_option autoImplicit false

/-! # Tags: the heads of all tagged data

A tag is an initial octet with the tag number in its high half, the class in bit 3 and a length in
its low bits, followed by an octet for numbers from 15 on and by up to five octets for lengths from
5 on. Application tags name a datatype, context tags name a parameter of a service, and an opening
and a closing tag enclose a parameter that has parts. -/

namespace Bacnet

/-- The datatypes that an application tag names. -/
inductive AppTag where
  | null
  | boolean
  | unsignedInt
  | signedInt
  | real
  | double
  | octetString
  | characterString
  | bitString
  | enumerated
  | date
  | time
  | objectId
deriving DecidableEq, Repr

namespace AppTag

def number : AppTag → UInt8
  | .null => 0
  | .boolean => 1
  | .unsignedInt => 2
  | .signedInt => 3
  | .real => 4
  | .double => 5
  | .octetString => 6
  | .characterString => 7
  | .bitString => 8
  | .enumerated => 9
  | .date => 10
  | .time => 11
  | .objectId => 12

/-- The datatypes in the order of their numbers. -/
def all : List AppTag :=
  [null, boolean, unsignedInt, signedInt, real, double, octetString, characterString, bitString,
    enumerated, date, time, objectId]

/-- The datatype with a number; the numbers from 13 on are reserved. -/
def ofNumber? (n : UInt8) : Option AppTag := all[n.toNat]?

theorem ofNumber?_number (t : AppTag) : ofNumber? t.number = some t := by cases t <;> rfl

end AppTag

/-- The head of tagged data. A length counts the octets of contents, but of a boolean it is the
    value. -/
inductive Tag where
  | application (tag : AppTag) (length : UInt32)
  | context (number : UInt8) (length : UInt32)
  | opening (number : UInt8)
  | closing (number : UInt8)
deriving DecidableEq, Repr

namespace Tag

/-- The class bit of all tags but application tags. -/
def contextClass : UInt8 := 0x08

/-- The tag number that says that an octet with the number follows. -/
def extendedNumber : UInt8 := 15

/-- The low bits that say that the length follows. -/
def extendedLength : UInt8 := 5

def openingBits : UInt8 := 6

def closingBits : UInt8 := 7

/-! ## Writing -/

/-- The initial octet with the octet for a large number. -/
def encodeInitial (number low : UInt8) : Encoding :=
  if number < extendedNumber then .octet (number <<< 4 ||| low)
  else .octet (extendedNumber <<< 4 ||| low) ++ .octet number

/-- A length of 5 or more, in as few octets as its size allows. -/
def encodeLength (length : UInt32) : Encoding :=
  if length ≤ 253 then .octet length.toUInt8
  else if length ≤ 0xFFFF then .octet 254 ++ .piece (Octets.ofUInt16 length.toUInt16)
  else .octet 255 ++ .piece (Octets.ofUInt32 length)

/-- A tag with a length. -/
def encodeWithLength (number classBit : UInt8) (length : UInt32) : Encoding :=
  if length < 5 then encodeInitial number (classBit ||| length.toUInt8)
  else encodeInitial number (classBit ||| extendedLength) ++ encodeLength length

def encode : Tag → Encoding
  | application tag length => encodeWithLength tag.number 0 length
  | context number length => encodeWithLength number contextClass length
  | opening number => encodeInitial number (contextClass ||| openingBits)
  | closing number => encodeInitial number (contextClass ||| closingBits)

/-! ## Reading -/

/-- The length that goes with the low bits of an initial octet. -/
def decodeLength (low : UInt8) : Decode UInt32 := do
  if low < extendedLength then return low.toUInt32
  if low ≠ extendedLength then throw .invalidLength
  match ← Decode.octet with
  | 254 => return (← Decode.word16).toUInt32
  | 255 => Decode.word32
  | short => return short.toUInt32

/-- Reads a tag. The number of an application tag is judged before its length is read. -/
def decode : Decode Tag := do
  let initial ← Decode.octet
  let number ← if initial >>> 4 = extendedNumber then Decode.octet else pure (initial >>> 4)
  let low := initial &&& 0x07
  if initial &&& contextClass = 0 then
    match AppTag.ofNumber? number with
    | some tag => return application tag (← decodeLength low)
    | none => throw .invalidTag
  else if low = openingBits then return opening number
  else if low = closingBits then return closing number
  else return context number (← decodeLength low)

/-- The next tag, not consumed. -/
def peek : Decode Tag := Decode.peek decode

/-- Whether this is the context tag with a number. -/
def isContext (expected : UInt8) : Tag → Bool
  | context number _ => number == expected
  | _ => false

/-- Reads a tag that has to be the given one. -/
def expect (expected : Tag) : Decode Unit := do
  if (← decode) ≠ expected then throw .invalidTag

/-- Reads an application tag that has to name the given datatype, and gives its length. -/
def expectApplication (expected : AppTag) : Decode Nat := do
  match ← decode with
  | application tag length => if tag = expected then return length.toNat else throw .invalidTag
  | _ => throw .invalidTag

/-- Reads a context tag that has to have the given number, and gives its length. -/
def expectContext (expected : UInt8) : Decode Nat := do
  match ← decode with
  | context number length => if number = expected then return length.toNat else throw .invalidTag
  | _ => throw .invalidTag

end Tag

/-- An encoding between the opening and the closing tag with a number. -/
def Encoding.bracketed (number : UInt8) (body : Encoding) : Encoding :=
  (Tag.opening number).encode ++ body ++ (Tag.closing number).encode

end Bacnet
