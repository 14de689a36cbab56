import Bacnet.Json.Token

set_option autoImplicit false

/-! # JSON values

Tokens are put together with an explicit stack of the arrays and objects that are still open, so a
text may be nested as deeply as it likes. How deep a value may be is up to whoever reads it. -/

namespace Bacnet.Json

/-- A JSON value, its strings and numbers as they are written. -/
inductive Tree where
  | null
  | boolean (b : Bool)
  | number (n : NumberText)
  | string (parts : List StringPart)
  | array (items : List Tree)
  | object (members : List (List StringPart × Tree))

namespace Builder

/-- An array or object that is still open, its parts latest first. -/
inductive Frame where
  | array (items : List Tree)
  | object (members : List (List StringPart × Tree))
  /-- An object of which the value of a key is being read. -/
  | member (members : List (List StringPart × Tree)) (key : List StringPart)

/-- What may come next. -/
inductive Next where
  | value
  | valueOrEnd
  | key
  | keyOrEnd
  | colon (key : List StringPart)
  | commaOrEnd
  | nothing (result : Tree)

/-- The open arrays and objects, innermost first, and what may come next. -/
structure State where
  frames : List Frame
  next : Next

/-- Before the first token. -/
def start : State := ⟨[], .value⟩

/-- A value is complete. -/
def push (frames : List Frame) (value : Tree) : Option State :=
  match frames with
  | [] => some ⟨[], .nothing value⟩
  | .array items :: frames => some ⟨.array (value :: items) :: frames, .commaOrEnd⟩
  | .member members key :: frames => some ⟨.object ((key, value) :: members) :: frames, .commaOrEnd⟩
  | .object _ :: _ => none

/-- A bracket or brace closes the innermost array or object. -/
def close (frames : List Frame) (token : Token) : Option State :=
  match token, frames with
  | .closeBracket, .array items :: frames => push frames (.array items.reverse)
  | .closeBrace, .object members :: frames => push frames (.object members.reverse)
  | _, _ => none

/-- A token where a value may begin. -/
def stepValue (frames : List Frame) (token : Token) : Option State :=
  match token with
  | .null => push frames .null
  | .boolean b => push frames (.boolean b)
  | .number n => push frames (.number n)
  | .string parts => push frames (.string parts)
  | .openBracket => some ⟨.array [] :: frames, .valueOrEnd⟩
  | .openBrace => some ⟨.object [] :: frames, .keyOrEnd⟩
  | .closeBracket | .closeBrace | .comma | .colon => none

/-- One token. -/
def step (s : State) (token : Token) : Option State :=
  match s.next, token with
  | .value, token => stepValue s.frames token
  | .valueOrEnd, .closeBracket => close s.frames .closeBracket
  | .valueOrEnd, token => stepValue s.frames token
  | .key, .string key | .keyOrEnd, .string key => some ⟨s.frames, .colon key⟩
  | .keyOrEnd, .closeBrace => close s.frames .closeBrace
  | .colon key, .colon =>
    match s.frames with
    | .object members :: frames => some ⟨.member members key :: frames, .value⟩
    | _ => none
  | .commaOrEnd, .comma =>
    match s.frames with
    | .array _ :: _ => some ⟨s.frames, .value⟩
    | .object _ :: _ => some ⟨s.frames, .key⟩
    | _ => none
  | .commaOrEnd, token => close s.frames token
  | _, _ => none

/-- The value of a text that ends here. -/
def finish (s : State) : Option Tree :=
  match s.next with
  | .nothing result => some result
  | _ => none

end Builder

namespace Tree

/-- The value that tokens make up. -/
def ofTokens? (tokens : List Token) : Option Tree :=
  (tokens.foldlM Builder.step Builder.start).bind Builder.finish

def ofText? (text : List Char) : Option Tree := (Token.ofText? text).bind ofTokens?

end Tree

end Bacnet.Json
