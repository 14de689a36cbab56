import Bacnet.Json.Tree

set_option autoImplicit false

/-! # The text of JSON values

Every item and every member is on a line of its own, two blanks deeper than the array or object it
is in; one with nothing in it is closed at once. In a string the characters that the grammar does
not allow are escaped, and no others. -/

namespace Bacnet.Json

/-- Four hexadecimal digits. -/
def fourDigits (n : Nat) : List Char :=
  let digits := Nat.toDigits 16 n
  List.replicate (4 - digits.length) '0' ++ digits

/-- A character of a string as it is written. -/
def escapedChar (c : Char) : List Char :=
  match c with
  | '"' => ['\\', '"']
  | '\\' => ['\\', '\\']
  | '\n' => ['\\', 'n']
  | '\r' => ['\\', 'r']
  | '\t' => ['\\', 't']
  | '\x08' => ['\\', 'b']
  | '\x0c' => ['\\', 'f']
  | _ => if c.toNat < 0x20 then '\\' :: 'u' :: fourDigits c.toNat else [c]

/-- A part of a string as it is written. -/
def StringPart.written : StringPart → List Char
  | .char c => escapedChar c
  | .unit code => '\\' :: 'u' :: fourDigits code

/-- A string as it is written. -/
def stringText (parts : List StringPart) : String :=
  .ofList (['"'] ++ parts.flatMap (·.written) ++ ['"'])

/-- A number as it is written. -/
def NumberText.text (n : NumberText) : String :=
  let fraction := if n.fraction.isEmpty then [] else '.' :: n.fraction
  let exponent := n.exponent.elim [] fun (negative, digits) =>
    'e' :: (if negative then '-' :: digits else digits)
  .ofList ((if n.negative then ['-'] else []) ++ n.whole ++ fraction ++ exponent)

namespace Tree

/-- A text as a value. -/
def ofString (text : String) : Tree := .string (text.toList.map .char)

/-- A number as a value. -/
def ofNat (n : Nat) : Tree := .number ⟨false, Nat.toDigits 10 n, [], none⟩

/-- An object with members. -/
def ofMembers (members : List (String × Tree)) : Tree :=
  .object (members.map fun (key, value) => (key.toList.map .char, value))

/-- The start of a line at a depth. -/
def lineStart (depth : Nat) : String := "\n" ++ "".pushn ' ' (2 * depth)

mutual

/-- The text of a value at a depth. -/
def textAt (depth : Nat) : Tree → String
  | .null => "null"
  | .boolean b => if b then "true" else "false"
  | .number n => n.text
  | .string parts => stringText parts
  | .array [] => "[]"
  | .array (item :: items) =>
    "[" ++ lineStart (depth + 1) ++ textAt (depth + 1) item ++ moreItems (depth + 1) items ++
      lineStart depth ++ "]"
  | .object [] => "\x7b\x7d"
  | .object (member :: members) =>
    "\x7b" ++ lineStart (depth + 1) ++ stringText member.1 ++ ": " ++
      textAt (depth + 1) member.2 ++ moreMembers (depth + 1) members ++ lineStart depth ++ "\x7d"

/-- The items behind the first of an array. -/
def moreItems (depth : Nat) : List Tree → String
  | [] => ""
  | item :: items => "," ++ lineStart depth ++ textAt depth item ++ moreItems depth items

/-- The members behind the first of an object. -/
def moreMembers (depth : Nat) : List (List StringPart × Tree) → String
  | [] => ""
  | (key, value) :: members =>
    "," ++ lineStart depth ++ stringText key ++ ": " ++ textAt depth value ++
      moreMembers depth members

end

/-- The text of a value. -/
def text (t : Tree) : String := t.textAt 0

end Tree

end Bacnet.Json
