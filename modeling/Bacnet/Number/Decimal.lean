import Bacnet.Number.Binary

set_option autoImplicit false

/-! # Numbers written in decimals

Reading of integers and of floating-point numbers as people write them in a configuration: a sign,
digits with or without a point, a power of ten; and the words for infinity and for no number. A
floating-point number is the one nearest to what is written. -/

namespace Bacnet

/-! ## Digits -/

/-- The value of a decimal digit. -/
def digitValue (c : Char) : Nat := c.toNat - '0'.toNat

/-- The number that decimal digits spell. -/
def ofDigits (digits : List Char) : Nat := digits.foldl (fun n c => n * 10 + digitValue c) 0

/-- The decimal digits in front of a text, and what is behind them. -/
def spanDigits (text : List Char) : List Char × List Char :=
  (text.takeWhile Char.isDigit, text.dropWhile Char.isDigit)

/-- A sign in front of a text, if there is one: whether it is a minus, and what is behind. -/
def spanSign : List Char → Bool × List Char
  | '-' :: rest => (true, rest)
  | '+' :: rest => (false, rest)
  | text => (false, text)

/-! ## Integers -/

/-- The number that a text of nothing but digits spells. -/
def natOfText? (text : List Char) : Option Nat :=
  if text.isEmpty ∨ ¬ text.all Char.isDigit then none else some (ofDigits text)

/-- The integer that a text spells, with or without a sign. -/
def intOfText? (text : List Char) : Option Int :=
  match spanSign text with
  | (true, rest) => (natOfText? rest).map fun n => -n
  | (false, rest) => (natOfText? rest).map fun n => n

/-- The word of 32 bits that a text spells. A plus may stand in front, but no minus. -/
def uint32OfText? (text : List Char) : Option UInt32 :=
  if text.head? = some '-' then none
  else (intOfText? text).bind fun n =>
    if n < 0x100000000 then some (.ofNat n.toNat) else none

/-- The signed word of 32 bits that a text spells. -/
def int32OfText? (text : List Char) : Option Int32 :=
  (intOfText? text).bind fun n =>
    if -0x80000000 ≤ n ∧ n < 0x80000000 then some (.ofInt n) else none

/-! ## Floating-point numbers -/

/-- What a text says about a floating-point number, its sign apart. -/
inductive DecimalText where
  /-- Digits times a power of ten. -/
  | finite (digits : Nat) (exponent : Int)
  | infinity
  | notANumber
deriving DecidableEq, Repr

namespace DecimalText

/-- The power of ten behind a number: nothing, or a mark and an integer. -/
def exponentOfText? : List Char → Option Int
  | [] => some 0
  | mark :: rest => if mark = 'e' ∨ mark = 'E' then intOfText? rest else none

/-- What a text without a sign says: digits around at most one point, of which one at least has to
    be there, and a power of ten; or a word in any case of letters. -/
def ofText? (text : List Char) : Option DecimalText :=
  let (whole, rest) := spanDigits text
  let (fraction, rest) :=
    match rest with
    | '.' :: rest => spanDigits rest
    | _ => ([], rest)
  if whole.isEmpty ∧ fraction.isEmpty then
    match String.ofList (text.map Char.toLower) with
    | "inf" | "infinity" => some infinity
    | "nan" => some notANumber
    | _ => none
  else
    (exponentOfText? rest).map fun e => finite (ofDigits (whole ++ fraction)) (e - fraction.length)

/-- How many decimal digits a number has. -/
def digitCount (n : Nat) : Nat := (Nat.toDigits 10 n).length

/-- The bits of the magnitude that is nearest to what a text says. Every format ends long before
    a thousand digits on either side of the point. -/
def toBits (f : BinaryFormat) : DecimalText → Nat
  | infinity => f.infinity
  | notANumber => f.quietNan
  | finite digits exponent =>
    let magnitude := digitCount digits + exponent
    if digits = 0 ∨ magnitude < -1000 then 0
    else if 1000 < magnitude then f.infinity
    else f.ofRatio (digits * 10 ^ exponent.toNat) (10 ^ (-exponent).toNat)

end DecimalText

/-- The bits of the number of a format that a text spells. -/
def BinaryFormat.ofText? (f : BinaryFormat) (text : List Char) : Option Nat :=
  let (negative, rest) := spanSign text
  (DecimalText.ofText? rest).map fun d => f.signed negative (d.toBits f)

end Bacnet
