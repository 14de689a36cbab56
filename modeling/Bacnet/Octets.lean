import Bacnet.Number.Power

set_option autoImplicit false

/-! # Octets: runs of octets and the big-endian words in them

Everything on a BACnet link is a run of octets, and every number in it has its most significant
octet first. One pair of functions, `ofNat` and `toNat`, holds that rule for every width; the words
of 16, 32 and 64 bits are its instances. -/

namespace Bacnet

/-- A run of octets in the order of transmission. -/
abbrev Octets := List UInt8

namespace Octets

/-! ## Numbers -/

/-- The last `width` octets of `n`, most significant first. -/
def ofNat : (width : Nat) → (n : Nat) → Octets
  | 0, _ => []
  | width + 1, n => UInt8.ofNat (n / 256 ^ width) :: ofNat width n

@[simp] theorem length_ofNat (width n : Nat) : (ofNat width n).length = width := by
  induction width with
  | zero => rfl
  | succ width ih => simp [ofNat, ih]

/-- The number that the octets spell, most significant first. -/
def toNat (octets : Octets) : Nat :=
  octets.foldl (fun n octet => n * 256 + octet.toNat) 0

/-- The two octets of a word. -/
def ofUInt16 (word : UInt16) : Octets := ofNat 2 word.toNat

/-- The four octets of a word. -/
def ofUInt32 (word : UInt32) : Octets := ofNat 4 word.toNat

/-- The eight octets of a word. -/
def ofUInt64 (word : UInt64) : Octets := ofNat 8 word.toNat

/-! ## Text -/

/-- The UTF-8 octets of a text. -/
def ofString (text : String) : Octets := text.toByteArray.data.toList

/-- The text that the octets spell in UTF-8; nothing when they are not well formed. -/
def toString? (octets : Octets) : Option String := String.fromUTF8? ⟨octets.toArray⟩

@[simp] theorem toString?_ofString (text : String) : toString? (ofString text) = some text := by
  simp [toString?, ofString, String.fromUTF8?, String.fromUTF8, text.isValidUTF8]

theorem ofString_toString? {octets : Octets} {text : String} (h : toString? octets = some text) :
    ofString text = octets := by
  simp only [toString?, String.fromUTF8?] at h
  split at h
  · cases h; simp [ofString, String.fromUTF8]
  · cases h

end Octets

end Bacnet
