import Bacnet.Identifier.PropertyId
import Bacnet.Text.Blank

set_option autoImplicit false

/-! # Keys: the many spellings of a name

People write `present_value`, `Present Value` or `presentValue`; the name is `present-value`. A run
of underscores, spaces and hyphens becomes one hyphen, a capital behind a small letter or a digit
begins a new word, and capitals become small. -/

namespace Bacnet

namespace Key

/-- The characters that may stand between words. -/
def isSeparator (c : Char) : Bool := c == '_' || c == ' ' || c == '-'

/-- The words of a text with hyphens between them, behind what is already written: `last` is its
    last character, and `lower` says that a capital would begin a new word. -/
def hyphenate : (last : Option Char) → (lower : Bool) → List Char → List Char
  | _, _, [] => []
  | last, lower, c :: rest =>
    if isSeparator c then
      if last.isNone ∨ last = some '-' then hyphenate last false rest
      else '-' :: hyphenate (some '-') false rest
    else if c.isUpper then
      if lower then '-' :: c.toLower :: hyphenate (some c.toLower) false rest
      else c.toLower :: hyphenate (some c.toLower) false rest
    else c :: hyphenate (some c) (c.isLower || c.isDigit) rest

end Key

/-- The one spelling of a key. -/
def normalizeKey (key : String) : String :=
  .ofList (Key.hyphenate none false (trimmed key.toList))

/-- What a key of a record stands for. -/
inductive Key where
  | identifier
  | name
  | type
  | property (p : PropertyId)
deriving DecidableEq, Repr

/-- What a key stands for; nothing if it is no name of a property. -/
def Key.ofText? (key : String) : Option Key :=
  let name := normalizeKey key
  if name = "object-identifier" ∨ name = "device-identifier" then some .identifier
  else if name = "object-name" ∨ name = "device-name" then some .name
  else if name = "object-type" then some .type
  else (PropertyId.ofName? name).map .property

end Bacnet
