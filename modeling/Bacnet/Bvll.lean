import Bacnet.Endpoint
import Bacnet.Octets.Reader
import Bacnet.Octets.Writer

set_option autoImplicit false

/-! # BVLL frames: the link layer on IP

A datagram is a frame: a type octet, a function, the length of the whole datagram, and for the four
functions that carry a message the NPDU. A forwarded message names where it is said to come from;
nobody vouches for that. The other functions manage broadcast tables and are not handled. -/

namespace Bacnet

/-- The functions that carry a message. -/
inductive BvllFunction where
  | forwardedNpdu
  | distributeBroadcastToNetwork
  | originalUnicastNpdu
  | originalBroadcastNpdu
deriving DecidableEq, Repr

namespace BvllFunction

def code : BvllFunction → UInt8
  | .forwardedNpdu => 0x04
  | .distributeBroadcastToNetwork => 0x09
  | .originalUnicastNpdu => 0x0A
  | .originalBroadcastNpdu => 0x0B

def ofCode? : UInt8 → Option BvllFunction
  | 0x04 => some .forwardedNpdu
  | 0x09 => some .distributeBroadcastToNetwork
  | 0x0A => some .originalUnicastNpdu
  | 0x0B => some .originalBroadcastNpdu
  | _ => none

theorem ofCode?_code (f : BvllFunction) : ofCode? f.code = some f := by cases f <;> rfl

/-- The function of a message that sets out. -/
def ofBroadcast (broadcast : Bool) : BvllFunction :=
  if broadcast then .originalBroadcastNpdu else .originalUnicastNpdu

end BvllFunction

/-- A datagram that carries a message. -/
structure BvllFrame where
  function : BvllFunction
  /-- Where a forwarded message is said to come from. -/
  origin : Option Endpoint
  npdu : Octets
deriving DecidableEq, Repr

namespace BvllFrame

/-- The type octet of all frames. -/
def type : UInt8 := 0x81

/-- How many octets stand before the message of a frame that is not forwarded. -/
def headerLength : Nat := 4

/-- The largest datagram that is taken from a link. -/
def maxLength : Nat := 1600

/-- Reads the address and the port of an origin. -/
def decodeOrigin : Decode Endpoint := do
  let address ← Decode.word32
  let port ← Decode.word16
  return ⟨.ofWord address, port, 0⟩

/-- Reads a frame out of a datagram of a given length. -/
def decodeWithin (length : Nat) : Decode BvllFrame := do
  if (← Decode.octet) ≠ type then throw .invalidValue
  let code ← Decode.octet
  if (← Decode.word16).toNat ≠ length then throw .invalidLength
  match BvllFunction.ofCode? code with
  | none => throw .unsupported
  | some .forwardedNpdu =>
    let origin ← decodeOrigin
    return ⟨.forwardedNpdu, some origin, ← Decode.rest⟩
  | some function => return ⟨function, none, ← Decode.rest⟩

def ofDatagram (datagram : Octets) : Except DecodeError BvllFrame :=
  (decodeWithin datagram.length).outcome datagram

/-- A message that sets out, as a frame; no written form when its length does not fit a word. -/
def encodeNpdu (broadcast : Bool) (npdu : Octets) : Encoding :=
  let length := headerLength + npdu.length
  if length < 0x10000 then
    .piece [type, (BvllFunction.ofBroadcast broadcast).code] ++
      .piece (Octets.ofUInt16 (.ofNat length)) ++ .piece npdu
  else .fail .valueOutOfRange

end BvllFrame

end Bacnet
