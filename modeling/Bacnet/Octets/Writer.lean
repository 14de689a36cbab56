import Bacnet.Octets

set_option autoImplicit false

/-! # Writing octets into a buffer that may be too small

An `Encoding` says what is to be written, as data: the pieces in order, each of which is written
whole or not at all, and the failure that follows them if the thing has no written form. A `Writer`
is a buffer with the part that is written and the part that is still free, and `Writer.put` is the
one place where the two meet. So what an encoding is never depends on the buffer it goes to. -/

namespace Bacnet

/-- Why a thing could not be written. -/
inductive EncodeError where
  /-- The buffer ended before the thing did. -/
  | bufferTooSmall
  /-- A field does not fit the width that its form gives it. -/
  | valueOutOfRange
  /-- A field with a length contradicts that length. -/
  | invalidLength
deriving DecidableEq, Repr

def EncodeError.message : EncodeError → String
  | .bufferTooSmall => "buffer too small"
  | .valueOutOfRange => "value out of range"
  | .invalidLength => "invalid length"

/-! ## Encodings -/

/-- What is to be written: pieces in order, and the failure behind them, if any. -/
structure Encoding where
  pieces : List Octets
  fault : Option EncodeError
deriving DecidableEq, Repr

namespace Encoding

def empty : Encoding := ⟨[], none⟩

/-- One run of octets, written whole or not at all. -/
def piece (octets : Octets) : Encoding := ⟨[octets], none⟩

/-- One octet. -/
def octet (o : UInt8) : Encoding := piece [o]

/-- No written form. -/
def fail (e : EncodeError) : Encoding := ⟨[], some e⟩

/-- One encoding behind another; what follows a failure is never reached. -/
def append (a b : Encoding) : Encoding :=
  match a.fault with
  | none => ⟨a.pieces ++ b.pieces, b.fault⟩
  | some _ => a

instance : Append Encoding := ⟨append⟩

/-- Encodings back to back. -/
def concat (encodings : List Encoding) : Encoding := encodings.foldr (· ++ ·) empty

/-- All octets that are written if there is room for them. -/
def octets (e : Encoding) : Octets := e.pieces.flatten

/-- How many octets those are. -/
def size (e : Encoding) : Nat := e.octets.length

end Encoding

/-! ## Writers -/

/-- A buffer under writing: what is written, and the free octets behind it as they stand. -/
structure Writer where
  written : Octets
  room : Octets
deriving DecidableEq, Repr

namespace Writer

/-- A writer at the start of a buffer. -/
def ofBuffer (buffer : Octets) : Writer := ⟨[], buffer⟩

/-- A writer at the start of a zeroed buffer. -/
def ofCapacity (capacity : Nat) : Writer := ofBuffer (List.replicate capacity 0)

/-- How many octets are written. -/
def position (w : Writer) : Nat := w.written.length

/-- How many octets are free. -/
def remaining (w : Writer) : Nat := w.room.length

/-- The whole buffer as it stands. -/
def buffer (w : Writer) : Octets := w.written ++ w.room

/-- Writes pieces in order up to the first that does not fit, then ends in the failure behind
    them. -/
def putPieces : List Octets → Option EncodeError → EStateM EncodeError Writer Unit
  | [], none => fun w => .ok () w
  | [], some e => fun w => .error e w
  | p :: pieces, fault => fun w =>
    if p.length ≤ w.remaining then
      putPieces pieces fault ⟨w.written ++ p, w.room.drop p.length⟩
    else .error .bufferTooSmall w

/-- Writes an encoding. -/
def put (e : Encoding) : EStateM EncodeError Writer Unit := putPieces e.pieces e.fault

end Writer

/-- What an encoding writes into a buffer of its own. -/
def Encoding.within (e : Encoding) (capacity : Nat) : Except EncodeError Octets :=
  match (Writer.ofCapacity capacity).put e with
  | .ok () w => .ok w.written
  | .error fault _ => .error fault

end Bacnet
