set_option autoImplicit false

/-! # Tokens of JSON text

A text is cut into tokens one character at a time: the lexer is in one of a few modes and each
character takes it to the next or is out of place. Strings and numbers stay as they are written:
whether an escape is a character and whether a number can be held is judged only where the value is
wanted. -/

namespace Bacnet.Json

/-- A part of a string: a character, or a code unit that was written by its number. -/
inductive StringPart where
  | char (c : Char)
  | unit (code : Nat)
deriving DecidableEq, Repr

/-- A number as it is written. -/
structure NumberText where
  negative : Bool
  whole : List Char
  fraction : List Char
  /-- Whether the exponent is negative, and its digits. -/
  exponent : Option (Bool × List Char)
deriving DecidableEq, Repr

/-- The words and signs of JSON. -/
inductive Token where
  | openBracket
  | closeBracket
  | openBrace
  | closeBrace
  | comma
  | colon
  | null
  | boolean (b : Bool)
  | number (n : NumberText)
  | string (parts : List StringPart)
deriving DecidableEq, Repr

namespace Lexer

/-! ## Numbers -/

/-- How far a number has come. -/
inductive Stage where
  | minus
  | zero
  | whole
  | point
  | fraction
  | mark
  | sign
  | exponent
deriving DecidableEq, Repr

/-- Whether a number may end here. -/
def Stage.isComplete : Stage → Bool
  | .zero | .whole | .fraction | .exponent => true
  | .minus | .point | .mark | .sign => false

/-- A number with one more digit of its exponent. -/
def addExponentDigit (n : NumberText) (c : Char) : NumberText :=
  let (negative, digits) := n.exponent.getD (false, [])
  { n with exponent := some (negative, digits ++ [c]) }

/-- A number with one more character, if that continues it. -/
def continueNumber (n : NumberText) (stage : Stage) (c : Char) : Option (NumberText × Stage) :=
  match stage with
  | .minus =>
    if c = '0' then some ({ n with whole := ['0'] }, .zero)
    else if c.isDigit then some ({ n with whole := [c] }, .whole)
    else none
  | .zero | .whole =>
    if c = '.' then some (n, .point)
    else if c = 'e' ∨ c = 'E' then some ({ n with exponent := some (false, []) }, .mark)
    else if c.isDigit ∧ stage = .whole then some ({ n with whole := n.whole ++ [c] }, .whole)
    else none
  | .point =>
    if c.isDigit then some ({ n with fraction := [c] }, .fraction) else none
  | .fraction =>
    if c.isDigit then some ({ n with fraction := n.fraction ++ [c] }, .fraction)
    else if c = 'e' ∨ c = 'E' then some ({ n with exponent := some (false, []) }, .mark)
    else none
  | .mark =>
    if c = '+' then some (n, .sign)
    else if c = '-' then some ({ n with exponent := some (true, []) }, .sign)
    else if c.isDigit then some (addExponentDigit n c, .exponent)
    else none
  | .sign | .exponent => if c.isDigit then some (addExponentDigit n c, .exponent) else none

/-! ## Modes -/

/-- What the lexer is in the middle of. The parts of a string are latest first. -/
inductive Mode where
  | between
  | word (rest : List Char) (token : Token)
  | number (n : NumberText) (stage : Stage)
  | string (parts : List StringPart)
  | escape (parts : List StringPart)
  | hex (parts : List StringPart) (digits : Nat) (code : Nat)
deriving DecidableEq, Repr

/-- The mode, and the tokens so far, latest first. -/
structure State where
  mode : Mode
  tokens : List Token

/-- Before the first character. -/
def start : State := ⟨.between, []⟩

/-- The characters between tokens that mean nothing. -/
def isSpace (c : Char) : Bool := c == ' ' || c == '\n' || c == '\t' || c == '\r'

/-- A character between tokens. -/
def stepBetween (tokens : List Token) (c : Char) : Option State :=
  match c with
  | '[' => some ⟨.between, .openBracket :: tokens⟩
  | ']' => some ⟨.between, .closeBracket :: tokens⟩
  | '\x7b' => some ⟨.between, .openBrace :: tokens⟩
  | '\x7d' => some ⟨.between, .closeBrace :: tokens⟩
  | ',' => some ⟨.between, .comma :: tokens⟩
  | ':' => some ⟨.between, .colon :: tokens⟩
  | 'n' => some ⟨.word "ull".toList .null, tokens⟩
  | 't' => some ⟨.word "rue".toList (.boolean true), tokens⟩
  | 'f' => some ⟨.word "alse".toList (.boolean false), tokens⟩
  | '"' => some ⟨.string [], tokens⟩
  | '-' => some ⟨.number ⟨true, [], [], none⟩ .minus, tokens⟩
  | _ =>
    if isSpace c then some ⟨.between, tokens⟩
    else
      (continueNumber ⟨false, [], [], none⟩ .minus c).map fun (n, stage) =>
        ⟨.number n stage, tokens⟩

/-- The character that a letter behind a backslash stands for. -/
def escaped? : Char → Option Char
  | '"' => some '"'
  | '\\' => some '\\'
  | '/' => some '/'
  | 'b' => some '\x08'
  | 'f' => some '\x0c'
  | 'n' => some '\n'
  | 'r' => some '\r'
  | 't' => some '\t'
  | _ => none

/-- The value of a hexadecimal digit. -/
def hexDigit? (c : Char) : Option Nat :=
  if c.isDigit then some (c.toNat - '0'.toNat)
  else if 'a' ≤ c ∧ c ≤ 'f' then some (c.toNat - 'a'.toNat + 10)
  else if 'A' ≤ c ∧ c ≤ 'F' then some (c.toNat - 'A'.toNat + 10)
  else none

/-- One character. -/
def step (s : State) (c : Char) : Option State :=
  match s.mode with
  | .between => stepBetween s.tokens c
  | .word rest token =>
    match rest with
    | [] => none
    | [last] => if c = last then some ⟨.between, token :: s.tokens⟩ else none
    | next :: rest => if c = next then some ⟨.word rest token, s.tokens⟩ else none
  | .number n stage =>
    match continueNumber n stage c with
    | some (n, stage) => some ⟨.number n stage, s.tokens⟩
    | none => if stage.isComplete then stepBetween (.number n :: s.tokens) c else none
  | .string parts =>
    if c = '"' then some ⟨.between, .string parts.reverse :: s.tokens⟩
    else if c = '\\' then some ⟨.escape parts, s.tokens⟩
    else if c.toNat < 0x20 then none
    else some ⟨.string (.char c :: parts), s.tokens⟩
  | .escape parts =>
    if c = 'u' then some ⟨.hex parts 0 0, s.tokens⟩
    else (escaped? c).map fun c => ⟨.string (.char c :: parts), s.tokens⟩
  | .hex parts digits code =>
    (hexDigit? c).map fun d =>
      let code := code * 16 + d
      if digits = 3 then ⟨.string (.unit code :: parts), s.tokens⟩
      else ⟨.hex parts (digits + 1) code, s.tokens⟩

/-- The tokens of a text that ends here. -/
def finish (s : State) : Option (List Token) :=
  match s.mode with
  | .between => some s.tokens.reverse
  | .number n stage => if stage.isComplete then some (.number n :: s.tokens).reverse else none
  | .word .. | .string _ | .escape _ | .hex .. => none

end Lexer

def Token.ofText? (text : List Char) : Option (List Token) :=
  (text.foldlM Lexer.step Lexer.start).bind Lexer.finish

end Bacnet.Json
