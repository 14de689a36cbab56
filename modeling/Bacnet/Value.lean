import Bacnet.Octets
import Bacnet.Identifier.ObjectId

set_option autoImplicit false

/-! # Values: what a property holds and what travels

One type serves the model of the device and the wire. Real and double values are kept as their
bits, so that the payload of a NaN and the sign of a zero are never lost; a list is an array of the
model and consecutive values on the wire. -/

namespace Bacnet

/-! ## Bit strings -/

/-- Packed bits, most significant first, with unused bits at the end of the last octet. -/
structure BitString where
  unusedBits : UInt8
  octets : Octets
deriving DecidableEq, Repr

namespace BitString

/-- How many bits the string has. -/
def length (b : BitString) : Nat := b.octets.length * 8 - b.unusedBits.toNat

/-- Whether the bit of an octet at a place, from the most significant, is set. -/
def testBit (octet : UInt8) (place : Nat) : Bool := octet.toNat.testBit (7 - place)

/-- The bit at an index from the first that travels. -/
def bit? (b : BitString) (index : Nat) : Option Bool :=
  if index < b.length then (b.octets[index / 8]?).map (testBit · (index % 8)) else none

/-- The octet whose bits from the most significant are the given ones, with zeros behind them. -/
def packOctet (bits : List Bool) : UInt8 :=
  .ofNat ((List.range 8).foldl (fun n place => n * 2 + (bits.getD place false).toNat) 0)

/-- Octets of eight bits each, the last filled with zeros. -/
def pack (bits : List Bool) : Octets :=
  (List.range ((bits.length + 7) / 8)).map fun k => packOctet ((bits.drop (8 * k)).take 8)

/-- The bit string of a list of bits. -/
def ofBits (bits : List Bool) : BitString :=
  let octets := pack bits
  ⟨.ofNat (octets.length * 8 - bits.length), octets⟩

end BitString

/-! ## Values -/

/-- A value of a property. -/
inductive Value where
  | null
  | boolean (b : Bool)
  | unsigned (n : UInt32)
  | signed (n : Int32)
  | real (bits : UInt32)
  | double (bits : UInt64)
  | characterString (text : String)
  | bitString (bits : BitString)
  | enumerated (code : UInt32)
  | objectId (id : ObjectId)
  | list (items : List Value)
deriving Repr, Inhabited

namespace Value

/-- The elements of an array. -/
def items? : Value → Option (List Value)
  | list items => some items
  | _ => none

def isList : Value → Bool
  | list _ => true
  | _ => false

end Value

end Bacnet
