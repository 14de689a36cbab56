import Bacnet.Value

set_option autoImplicit false

/-! # Datatypes: what kind of value a property holds -/

namespace Bacnet

/-- A declared kind of value. It decides which application tag stands on the wire. -/
inductive Datatype where
  | boolean
  | unsigned
  | signed
  | real
  | double
  | characterString
  | enumerated
  | objectId
  | bitString
  | arrayOf (element : Datatype)
deriving DecidableEq, Repr

namespace Datatype

/-- Whether the values are arrays. -/
def isArray : Datatype → Bool
  | arrayOf _ => true
  | _ => false

def label : Datatype → String
  | boolean => "Boolean"
  | unsigned => "Unsigned"
  | signed => "Signed"
  | real => "Real"
  | double => "Double"
  | characterString => "CharacterString"
  | enumerated => "Enumerated"
  | objectId => "ObjectId"
  | bitString => "BitString"
  | arrayOf element => "ArrayOf(" ++ element.label ++ ")"

/-- The value that stands for an absent property. No identifier is neutral, so for an identifier
    it is the null value. -/
def emptyValue : Datatype → Value
  | boolean => .boolean false
  | unsigned => .unsigned 0
  | signed => .signed 0
  | real => .real 0
  | double => .double 0
  | characterString => .characterString ""
  | enumerated => .enumerated 0
  | objectId => .null
  | bitString => .bitString (.ofBits [])
  | arrayOf _ => .list []

end Datatype

end Bacnet
