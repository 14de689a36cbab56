import Bacnet.Json.Token
import Bacnet.Number.Decimal

set_option autoImplicit false

/-! # Strings and numbers of JSON

A string is a text if its code units pair up. A number is an integer if it is written without a
point and an exponent and fits 64 bits, and else a double. The double is computed in double
arithmetic: the leading digits as a whole number, times or through a power of ten; so it is not
always the nearest one, and a number too large for a double is no number at all. -/

namespace Bacnet.Json

/-! ## Strings -/

/-- The character of a code unit that stands alone. -/
def charOfUnit? (code : Nat) : Option Char :=
  if h : code.isValidChar then some (Char.ofNatAux code h) else none

/-- The character of a code unit of the upper and one of the lower half. -/
def charOfPair? (high low : Nat) : Option Char :=
  if 0xD800 ≤ high ∧ high ≤ 0xDBFF ∧ 0xDC00 ≤ low ∧ low ≤ 0xDFFF then
    charOfUnit? ((high - 0xD800) * 0x400 + (low - 0xDC00) + 0x10000)
  else none

/-- The characters of a string. A code unit of a half must be part of a pair. -/
def chars? : List StringPart → Option (List Char)
  | [] => some []
  | .char c :: parts => (chars? parts).map (c :: ·)
  | .unit high :: .unit low :: parts =>
    match charOfPair? high low with
    | some c => (chars? parts).map (c :: ·)
    | none => do
      let c ← charOfUnit? high
      let rest ← chars? (.unit low :: parts)
      return c :: rest
  | .unit code :: parts => do
    let c ← charOfUnit? code
    let rest ← chars? parts
    return c :: rest
termination_by parts => parts.length

/-- The text of a string. -/
def text? (parts : List StringPart) : Option String := (chars? parts).map .ofList

/-! ## Numbers -/

/-- The value of a number. -/
inductive Number where
  | integer (n : Int)
  | double (bits : Nat)
deriving DecidableEq, Repr

namespace Number

/-- The first number that 64 bits do not hold. -/
def wordEnd : Nat := 0x10000000000000000

/-- Takes digits into a number as long as it fits 64 bits; gives the number and the digits that are
    left. -/
def takeDigits (n : Nat) : List Char → Nat × List Char
  | [] => (n, [])
  | c :: digits =>
    let next := n * 10 + digitValue c
    if next < wordEnd then takeDigits next digits else (n, c :: digits)

/-- The leading digits of a number as a whole number, and the power of ten that goes with them.
    Digits before the point that do not fit count as zeros. Digits behind it that do not fit are
    left out, and so are all behind the first of them. -/
def significand (t : NumberText) : Nat × Int :=
  let (n, dropped) := takeDigits 0 t.whole
  let (n, left) := takeDigits n t.fraction
  (n, dropped.length - (t.fraction.length - left.length : Nat))

/-- The largest power of ten that is a double. -/
def largestPower : Nat := 308

/-- The double nearest to a power of ten. -/
def powerOfTen (exponent : Nat) : Nat := BinaryFormat.double.ofRatio (10 ^ exponent) 1

/-- Divides a magnitude by a power of ten, as often by the largest one as it takes. -/
def divideByPower (bits : Nat) (exponent : Nat) : Nat :=
  let f := BinaryFormat.double
  (List.replicate (exponent / largestPower) (powerOfTen largestPower)).foldl f.div bits
    |> (f.div · (powerOfTen (exponent % largestPower)))

/-- The magnitude of a whole number times a power of ten; nothing if it is too large. Below the
    reach of three divisions every number is zero. -/
def scale? (n : Nat) (exponent : Int) : Option Nat :=
  let f := BinaryFormat.double
  let bits := f.ofRatio n 1
  if n = 0 then some 0
  else if 0 ≤ exponent then
    if largestPower < exponent then none
    else
      let product := f.mul bits (powerOfTen exponent.toNat)
      if product = f.infinity then none else some product
  else some (divideByPower bits (min exponent.natAbs (3 * largestPower)))

/-- The exponent that is written; nothing if it does not fit 32 bits. -/
def writtenExponent? (negative : Bool) (digits : List Char) : Option Int :=
  let n := ofDigits digits
  if n < 0x80000000 then some (if negative then -n else n) else none

/-- The value of a number that is not an integer. An exponent beyond all bounds makes it zero, or
    too large if it is positive and there is something to enlarge. -/
def double? (t : NumberText) : Option Nat :=
  let (n, power) := significand t
  let magnitude? :=
    match t.exponent with
    | none => scale? n power
    | some (negative, digits) =>
      match writtenExponent? negative digits with
      | some exponent => scale? n (power + exponent)
      | none => if n ≠ 0 ∧ ¬ negative then none else some 0
  magnitude?.map (BinaryFormat.double.signed t.negative)

def ofText? (t : NumberText) : Option Number :=
  let n : Int := if t.negative then -(ofDigits t.whole : Int) else ofDigits t.whole
  if t.fraction.isEmpty ∧ t.exponent.isNone ∧ -0x8000000000000000 ≤ n ∧ n < 0x8000000000000000
      ∧ ¬ (t.negative ∧ n = 0) then
    some (.integer n)
  else (double? t).map .double

end Number

end Bacnet.Json
