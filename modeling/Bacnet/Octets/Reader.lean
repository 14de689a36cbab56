import Bacnet.Octets

set_option autoImplicit false

/-! # Reading octets that nobody vouches for

A `Reader` is what is left of an input together with how much of it is gone. A `Decode` is a
reading: it ends in a value or in a `DecodeError`, and in both cases says where the reader stands
afterwards, because a service that fails half way has still consumed its first half.

The primitive readings (`octet`, `octets`, the words) consume nothing when they fail. `peek` never
consumes. `many` is the one loop: it takes items until a step says that there are no more, and it
ends because an item takes at least one octet. -/

namespace Bacnet

/-- Why an input is not a reading of the expected form. -/
inductive DecodeError where
  /-- The input ended inside a form. -/
  | unexpectedEnd
  /-- A tag stood where another one had to. -/
  | invalidTag
  /-- A length that the form does not allow. -/
  | invalidLength
  /-- Contents that the form does not allow. -/
  | invalidValue
  /-- Well formed, but outside of what is handled here. -/
  | unsupported
  /-- Octets were left after a complete body. -/
  | trailingData
deriving DecidableEq, Repr

def DecodeError.message : DecodeError → String
  | .unexpectedEnd => "unexpected end of input"
  | .invalidTag => "invalid tag"
  | .invalidLength => "invalid length"
  | .invalidValue => "invalid value"
  | .unsupported => "unsupported encoding"
  | .trailingData => "trailing data after payload"

/-- An input under reading: how many octets are consumed, and the ones that are not. -/
structure Reader where
  position : Nat
  unread : Octets
deriving DecidableEq, Repr

/-- A reader at the start of an input. -/
def Reader.ofOctets (input : Octets) : Reader := ⟨0, input⟩

/-- How many octets are left. -/
def Reader.remaining (r : Reader) : Nat := r.unread.length

/-- The reader behind the next `n` octets. -/
def Reader.skip (r : Reader) (n : Nat) : Reader := ⟨r.position + n, r.unread.drop n⟩

/-- A reading: a value or a failure, and the reader afterwards. -/
abbrev Decode := EStateM DecodeError Reader

namespace Decode

/-! ## Primitive readings -/

/-- The next `n` octets. -/
def octets (n : Nat) : Decode Octets := fun r =>
  let head := r.unread.take n
  if head.length = n then .ok head (r.skip n) else .error .unexpectedEnd r

/-- The next octet. -/
def octet : Decode UInt8 := fun r =>
  match r.unread with
  | [] => .error .unexpectedEnd r
  | o :: _ => .ok o (r.skip 1)

/-- The next two octets as a word. -/
def word16 : Decode UInt16 := do return .ofNat (Octets.toNat (← octets 2))

/-- The next four octets as a word. -/
def word32 : Decode UInt32 := do return .ofNat (Octets.toNat (← octets 4))

/-- The next eight octets as a word. -/
def word64 : Decode UInt64 := do return .ofNat (Octets.toNat (← octets 8))

/-- Everything that is left. -/
def rest : Decode Octets := fun r => .ok r.unread (r.skip r.remaining)

/-- Whether nothing is left. -/
def atEnd : Decode Bool := fun r => .ok r.unread.isEmpty r

/-- Fails unless nothing is left. -/
def expectEnd : Decode Unit := fun r =>
  match r.unread with
  | [] => .ok () r
  | _ :: _ => .error .trailingData r

/-! ## Combinations -/

/-- What a reading makes of a whole input. -/
def outcome {α : Type} (reading : Decode α) (input : Octets) : Except DecodeError α :=
  match reading (.ofOctets input) with
  | .ok a _ => .ok a
  | .error e _ => .error e

/-- The outcome of a reading, with nothing consumed. -/
def peek {α : Type} (reading : Decode α) : Decode α := fun r =>
  match reading r with
  | .ok a _ => .ok a r
  | .error e _ => .error e r

/-- `many` with the octets that may still start an item and the items so far, latest first. -/
def many.go {α : Type} (step : Decode (Option α)) : (fuel : Octets) → List α → Decode (List α)
  | [], items => do
    match ← step with
    | none => return items.reverse
    | some _ => throw .unexpectedEnd
  | _ :: fuel, items => do
    match ← step with
    | none => return items.reverse
    | some item => many.go step fuel (item :: items)

/-- The items that `step` gives, up to where it gives none. Each item has to take an octet at
    least, so there are no more of them than octets to read. -/
def many {α : Type} (step : Decode (Option α)) : Decode (List α) := fun r =>
  many.go step r.unread [] r

end Decode

end Bacnet
