import Bacnet.Number.Power

set_option autoImplicit false

/-! # Binary floating-point numbers, by their bits

A number of a binary interchange format is a whole number of units, where the unit is the least
positive number of the format. So rounding to nearest, ties to even, is one division of natural
numbers, and the bits follow from the quotient: counted from the least, the numbers of a format are
numbered by their bits. Nothing here goes through machine floating point. -/

namespace Bacnet

/-- A binary interchange format: the bits of a significand, the leading one included, and the bits
    of an exponent. -/
structure BinaryFormat where
  precision : Nat
  exponentBits : Nat
deriving DecidableEq, Repr

/-- The quotient of two numbers, rounded to nearest, ties to even. -/
def roundedQuotient (n d : Nat) : Nat :=
  let q := n / d
  let r := n % d
  if 2 * r < d then q else if d < 2 * r then q + 1 else q + q % 2

namespace BinaryFormat

/-- Numbers of 32 bits. -/
def single : BinaryFormat := ⟨24, 8⟩

/-- Numbers of 64 bits. -/
def double : BinaryFormat := ⟨53, 11⟩

variable (f : BinaryFormat)

/-- How often the unit has to be doubled to make one. -/
def unitShift : Nat := 2 ^ (f.exponentBits - 1) + f.precision - 3

/-- The bit of a negative number. -/
def signBit : Nat := 2 ^ (f.precision - 1 + f.exponentBits)

/-- The bits of infinity. -/
def infinity : Nat := (2 ^ f.exponentBits - 1) * 2 ^ (f.precision - 1)

/-- The bits of the number that is none. -/
def quietNan : Nat := f.infinity + 2 ^ (f.precision - 2)

/-- Bits with the sign of a number. -/
def signed (negative : Bool) (bits : Nat) : Nat := if negative then f.signBit + bits else bits

/-- Whether bits are those of a negative number. -/
def isNegative (bits : Nat) : Bool := f.signBit ≤ bits

/-- Bits without the sign. -/
def magnitude (bits : Nat) : Nat := bits % f.signBit

/-- Whether bits are those of no number: their magnitude is above infinity. -/
def isNan (bits : Nat) : Bool := f.infinity < f.magnitude bits

/-! ## Units -/

/-- How many units the magnitude with the given bits has. -/
def units (bits : Nat) : Nat :=
  let half := 2 ^ (f.precision - 1)
  if bits < half then bits else (half + bits % half) * 2 ^ (bits / half - 1)

/-- The bits of the magnitude that is nearest to a quotient of units. -/
def ofUnits (n d : Nat) : Nat :=
  let shift := (n / d).log2 + 1 - f.precision
  min f.infinity (shift * 2 ^ (f.precision - 1) + roundedQuotient n (d * 2 ^ shift))

/-! ## Conversions -/

/-- The bits of the magnitude that is nearest to a quotient. -/
def ofRatio (n d : Nat) : Nat := f.ofUnits (n * 2 ^ f.unitShift) d

/-- The bits of the number that is nearest to an integer. -/
def ofInt (n : Int) : Nat := f.signed (n < 0) (f.ofRatio n.natAbs 1)

/-- The bits of no number, quiet, for a magnitude of another format that is none: with the upper
    bits of its fraction, as many as there is room for. -/
def nanOf (g : BinaryFormat) (magnitude : Nat) : Nat :=
  let fraction := magnitude % 2 ^ (g.precision - 1)
  f.infinity + (2 ^ (f.precision - 2) ||| fraction * 2 ^ f.precision / 2 ^ g.precision)

/-- The bits of the magnitude that a magnitude of another format becomes: the nearest to a finite
    one, infinity to infinity, and no number to no number. -/
def ofMagnitude (g : BinaryFormat) (magnitude : Nat) : Nat :=
  if magnitude < g.infinity then f.ofRatio (g.units magnitude) (2 ^ g.unitShift)
  else if magnitude = g.infinity then f.infinity
  else f.nanOf g magnitude

/-- The bits that bits of another format become. The sign stays, also of what is no number, and bits
    of the format itself stay as they are. -/
def ofBits (g : BinaryFormat) (bits : Nat) : Nat :=
  if f = g then bits else f.signed (g.isNegative bits) (f.ofMagnitude g (g.magnitude bits))

/-! ## Arithmetic on magnitudes -/

/-- The product of two magnitudes. -/
def mul (a b : Nat) : Nat := f.ofRatio (f.units a * f.units b) (2 ^ (2 * f.unitShift))

/-- The quotient of two magnitudes, the second not zero. -/
def div (a b : Nat) : Nat := f.ofRatio (f.units a) (f.units b)

end BinaryFormat

end Bacnet
