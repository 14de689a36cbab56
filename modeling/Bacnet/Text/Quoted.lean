import Bacnet.Text.Printable

set_option autoImplicit false

/-! # Quoted text

How messages show a text: between quotation marks, with a backslash before the characters that would
be misread, and the code points of those that would not be seen. -/

namespace Bacnet

/-- One character of a quoted text. -/
def quotedChar (c : Char) : List Char :=
  match c with
  | '"' => ['\\', '"']
  | '\\' => ['\\', '\\']
  | '\n' => ['\\', 'n']
  | '\r' => ['\\', 'r']
  | '\t' => ['\\', 't']
  | '\x00' => ['\\', '0']
  | _ => if isPrintable c then [c] else ['\\', 'u', '\x7b'] ++ Nat.toDigits 16 c.toNat ++ ['\x7d']

/-- A text between quotation marks. -/
def quoted (text : String) : String :=
  .ofList (['"'] ++ text.toList.flatMap quotedChar ++ ['"'])

end Bacnet
