import Bacnet.Endpoint

set_option autoImplicit false

/-! # Configuration of a responder -/

namespace Bacnet

/-! ## Addressing of announcements -/

/-- Who gets an announcement: everyone, or the one who asked. -/
inductive Addressing where
  | broadcast
  | unicast
deriving DecidableEq, Repr

/-- A text that names no addressing. -/
structure AddressingError where
  text : String
deriving DecidableEq, Repr

def AddressingError.message (e : AddressingError) : String :=
  "expected `broadcast` or `unicast`, got `" ++ e.text ++ "`"

namespace Addressing

def label : Addressing → String
  | broadcast => "broadcast"
  | unicast => "unicast"

def ofName? : String → Option Addressing
  | "broadcast" => some .broadcast
  | "unicast" => some .unicast
  | _ => none

theorem ofName?_label (a : Addressing) : ofName? a.label = some a := by cases a <;> rfl

/-- The addressing that a text names in small or capital letters. -/
def ofText (text : String) : Except AddressingError Addressing :=
  let name := text.map Char.toLower
  (ofName? name).elim (.error ⟨name⟩) .ok

end Addressing

/-! ## All settings -/

/-- How a responder behaves. -/
structure Config where
  /-- Where broadcast announcements go. -/
  broadcast : IpAddress := .v4 255 255 255 255
  addressing : Addressing := .broadcast
  /-- Whether a confirmed request for a service that is not known is rejected and not ignored. -/
  rejectUnrecognized : Bool := false
deriving DecidableEq, Repr

end Bacnet
