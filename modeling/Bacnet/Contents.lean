import Bacnet.Tag

set_option autoImplicit false

/-! # Contents: what stands behind a tag

Integers are written with the fewest octets that hold them, texts as an octet for the character set
and then UTF-8. The same contents go behind an application tag and behind a context tag, so each
writer takes the tag as a function of the length. -/

namespace Bacnet.Contents

/-! ## Integers -/

/-- How many octets an unsigned integer takes: as few as possible, but one for zero. -/
def unsignedWidth (n : UInt32) : Nat :=
  if n < 0x100 then 1 else if n < 0x10000 then 2 else if n < 0x1000000 then 3 else 4

/-- The octets of an unsigned integer. -/
def ofUnsigned (n : UInt32) : Octets := Octets.ofNat (unsignedWidth n) n.toNat

/-- How many octets a signed integer takes: as few as leave its sign in the first bit. -/
def signedWidth (n : Int32) : Nat :=
  if -0x80 ≤ n ∧ n < 0x80 then 1
  else if -0x8000 ≤ n ∧ n < 0x8000 then 2
  else if -0x800000 ≤ n ∧ n < 0x800000 then 3
  else 4

/-- The octets of a signed integer, in two's complement. -/
def ofSigned (n : Int32) : Octets := Octets.ofNat (signedWidth n) n.toUInt32.toNat

/-- The signed integer that one to four octets spell: the first bit counts down. -/
def signedOfOctets (octets : Octets) : Int32 :=
  let n : Int := Octets.toNat octets
  if (octets.headD 0) < 0x80 then .ofInt n else .ofInt (n - 256 ^ octets.length)

def decodeUnsigned (length : Nat) : Decode UInt32 := do
  if length = 0 ∨ 4 < length then throw .invalidLength
  return .ofNat (Octets.toNat (← Decode.octets length))

def decodeSigned (length : Nat) : Decode Int32 := do
  if length = 0 ∨ 4 < length then throw .invalidLength
  return signedOfOctets (← Decode.octets length)

/-- Reads a word of four octets, after any other declared length is refused. -/
def decodeWord32 (length : Nat) : Decode UInt32 := do
  if length ≠ 4 then throw .invalidLength
  Decode.word32

/-- Reads a word of eight octets, after any other declared length is refused. -/
def decodeWord64 (length : Nat) : Decode UInt64 := do
  if length ≠ 8 then throw .invalidLength
  Decode.word64

/-! ## Texts -/

/-- The one character set that is handled: UTF-8. -/
def utf8Charset : UInt8 := 0

def decodeText (length : Nat) : Decode String := do
  match ← Decode.octets length with
  | [] => throw .invalidLength
  | charset :: octets =>
    if charset ≠ utf8Charset then throw .unsupported
    match Octets.toString? octets with
    | some text => return text
    | none => throw .invalidValue

/-! ## Tagged contents -/

/-- Contents behind a tag that counts them. -/
def tagged (tag : UInt32 → Tag) (contents : Octets) : Encoding :=
  (tag (.ofNat contents.length)).encode ++ .piece contents

/-- An unsigned integer behind its tag. -/
def encodeUnsigned (tag : UInt32 → Tag) (n : UInt32) : Encoding := tagged tag (ofUnsigned n)

def encodeSigned (tag : UInt32 → Tag) (n : Int32) : Encoding := tagged tag (ofSigned n)

/-- A word of four octets behind its tag. -/
def encodeWord32 (tag : UInt32 → Tag) (word : UInt32) : Encoding :=
  tagged tag (Octets.ofUInt32 word)

/-- A word of eight octets behind its tag. -/
def encodeWord64 (tag : UInt32 → Tag) (word : UInt64) : Encoding :=
  tagged tag (Octets.ofUInt64 word)

/-- An octet and further octets behind a tag that counts both; no written form when the count does
    not fit the tag. -/
def encodeHeaded (tag : UInt32 → Tag) (head : UInt8) (octets : Octets) : Encoding :=
  let length := octets.length + 1
  if length < 0x100000000 then (tag (.ofNat length)).encode ++ .octet head ++ .piece octets
  else .fail .valueOutOfRange

def encodeText (tag : UInt32 → Tag) (text : String) : Encoding :=
  encodeHeaded tag utf8Charset (Octets.ofString text)

/-! ## Contents behind the application tag of their datatype -/

def decodeAppUnsigned : Decode UInt32 := do
  decodeUnsigned (← Tag.expectApplication .unsignedInt)

def decodeAppEnumerated : Decode UInt32 := do
  decodeUnsigned (← Tag.expectApplication .enumerated)

/-- Reads a tagged object identifier as a word. -/
def decodeAppObjectId : Decode UInt32 := do
  decodeWord32 (← Tag.expectApplication .objectId)

def decodeAppText : Decode String := do
  decodeText (← Tag.expectApplication .characterString)

end Bacnet.Contents
