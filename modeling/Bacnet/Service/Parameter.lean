import Bacnet.Contents
import Bacnet.Identifier.ObjectId

set_option autoImplicit false

/-! # Parameters of services

The body of a service is a row of parameters, each behind a context tag with the number of the
parameter. A parameter that may be missing is recognised by its tag, so looking for it must not
consume anything. -/

namespace Bacnet.Parameter

def encodeUnsigned (number : UInt8) (n : UInt32) : Encoding :=
  Contents.encodeUnsigned (.context number) n

def encodeOptional (number : UInt8) (n : Option UInt32) : Encoding :=
  n.elim .empty (encodeUnsigned number)

def encodeObjectId (number : UInt8) (id : ObjectId) : Encoding :=
  Contents.encodeWord32 (.context number) id.raw

def encodeText (number : UInt8) (text : String) : Encoding :=
  Contents.encodeText (.context number) text

def decodeUnsigned (number : UInt8) : Decode UInt32 := do
  Contents.decodeUnsigned (← Tag.expectContext number)

/-- Reads an unsigned parameter if its tag is next. -/
def decodeOptional (number : UInt8) : Decode (Option UInt32) := do
  if ← Decode.atEnd then return none
  if (← Tag.peek).isContext number then some <$> decodeUnsigned number else return none

def decodeObjectId (number : UInt8) : Decode ObjectId := do
  return ⟨← Contents.decodeWord32 (← Tag.expectContext number)⟩

end Bacnet.Parameter
