import Bacnet.Number.Binary

set_option autoImplicit false

/-! # The shortest decimals that read back

Of all decimals that round to a number, the ones with the fewest digits, and of those the nearest to
the number, the larger one if two are equally near. The decimals that round to a number are an
interval between the two midpoints to its neighbours; a midpoint itself belongs to it when the bits
of the number are even. If any point of a grid of decimals lies in the interval, one of the two grid
points around the number does, so only those are tried, grid by grid. -/

namespace Bacnet

/-- A positive decimal: `0.d₁d₂…` times a power of ten. -/
structure ShortDecimal where
  digits : List Char
  exponent : Int
deriving DecidableEq, Repr

namespace ShortDecimal

/-- The interval of the decimals that round to a number, and the number, all in half units over a
    common denominator. -/
structure Interval where
  low : Nat
  value : Nat
  high : Nat
  denominator : Nat
  closed : Bool

/-- The interval of the magnitude with the given bits, which must not be zero. -/
def interval (f : BinaryFormat) (bits : Nat) : Interval where
  low := f.units (bits - 1) + f.units bits
  value := 2 * f.units bits
  high := f.units bits + f.units (bits + 1)
  denominator := 2 ^ (f.unitShift + 1)
  closed := bits % 2 == 0

namespace Interval

variable (i : Interval)

/-- Whether `n / d` lies in the interval. -/
def contains (n d : Nat) : Bool :=
  let n := n * i.denominator
  if i.closed then i.low * d ≤ n && n ≤ i.high * d else i.low * d < n && n < i.high * d

/-- The least power of ten above the value; the shift makes every value a whole number first. -/
def exponent (shift : Nat) : Int :=
  (Nat.toDigits 10 (i.value * 10 ^ shift / i.denominator)).length - shift

/-- The grid point in the interval that is nearest to the value, where the grid has steps of
    `n / d`; of two equally near the larger. -/
def nearest? (n d : Nat) : Option Nat :=
  let below := i.value * d / (i.denominator * n)
  let above := below + 1
  let toBelow := i.value * d - below * n * i.denominator
  let toAbove := above * n * i.denominator - i.value * d
  match i.contains (below * n) d, i.contains (above * n) d with
  | false, false => none
  | true, false => some below
  | false, true => some above
  | true, true => some (if toBelow < toAbove then below else above)

end Interval

/-- The digits of a number without the zeros at its end. -/
def trimmedDigits (n : Nat) : List Char :=
  ((Nat.toDigits 10 n).reverse.dropWhile (· == '0')).reverse

/-- The shortest decimal of the double with the given bits, which are those of a finite positive
    number. Seventeen digits are always enough. -/
def ofDouble (bits : Nat) : ShortDecimal :=
  let i := interval .double bits
  let exponent := i.exponent 330
  let found := (List.range 17).findSome? fun (count : Nat) =>
    let place := exponent - (count + 1)
    (i.nearest? (10 ^ place.toNat) (10 ^ (-place).toNat)).map fun n => (n, place)
  match found with
  | some (n, place) => ⟨trimmedDigits n, (Nat.toDigits 10 n).length + place⟩
  | none => ⟨[], 0⟩

/-! ## Text -/

/-- The digits around the point, at least one on either side. -/
def positional (d : ShortDecimal) : List Char :=
  let zeros := List.replicate (-d.exponent).toNat '0'
  let padding := List.replicate (d.exponent.toNat - d.digits.length) '0'
  let whole := d.digits.take d.exponent.toNat ++ padding
  let fraction := zeros ++ d.digits.drop d.exponent.toNat
  let orZero (digits : List Char) := if digits.isEmpty then ['0'] else digits
  orZero whole ++ ['.'] ++ orZero fraction

/-- One digit, the others behind a point if there are any, and a power of ten. -/
def scientific (d : ShortDecimal) : List Char :=
  let fraction := if d.digits.length ≤ 1 then [] else '.' :: d.digits.drop 1
  d.digits.take 1 ++ fraction ++ ['e'] ++ (toString (d.exponent - 1)).toList

end ShortDecimal

/-- The text of the double with the given bits: positional from a ten-thousandth up to ten to the
    sixteenth, with a power of ten elsewhere, and a word for infinity. What is no number is one word
    without a sign. -/
def doubleText (bits : Nat) : String :=
  let f := BinaryFormat.double
  let magnitude := f.magnitude bits
  let sign := if f.isNegative bits then ['-'] else []
  let body :=
    if magnitude = 0 then ['0', '.', '0']
    else if magnitude = f.infinity then ['i', 'n', 'f']
    else
      let d := ShortDecimal.ofDouble magnitude
      if magnitude < f.ofRatio 1 10000 ∨ f.ofRatio 10000000000000000 1 ≤ magnitude then d.scientific
      else d.positional
  if f.isNan bits then "NaN" else .ofList (sign ++ body)

end Bacnet
