import Bacnet.Number.Shortest
import Bacnet.Text.Quoted

set_option autoImplicit false

/-! # Settings: values as a template writes them

A template says what a value is without saying of which datatype: the datatype is the property's.
A number is an integer if it was written as one and is not too large, and else a double by its
bits. -/

namespace Bacnet

/-- A value as a template writes it. -/
inductive Setting where
  | boolean (b : Bool)
  | integer (n : Int)
  | float (bits : UInt64)
  | text (s : String)
  | list (items : List Setting)
deriving Repr, Inhabited

namespace Setting

mutual

def label : Setting → String
  | boolean b => "Boolean(" ++ (if b then "true" else "false") ++ ")"
  | integer n => "Integer(" ++ toString n ++ ")"
  | float bits => "Float(" ++ doubleText bits.toNat ++ ")"
  | text s => "Text(" ++ quoted s ++ ")"
  | list items => "List([" ++ labels items ++ "])"

/-- How messages show settings in a list. -/
def labels : List Setting → String
  | [] => ""
  | [item] => label item
  | item :: next :: items => label item ++ ", " ++ labels (next :: items)

end

end Setting

end Bacnet
