import Bacnet.Octets

set_option autoImplicit false

/-! # The text of octets

Two hexadecimal digits an octet. Small digits are written, and both small and capital ones are read;
what is written reads back (`ofHex?_toHex`). -/

namespace Bacnet.Octets

/-- The value of a hexadecimal digit. -/
def hexValue? (c : Char) : Option Nat :=
  if '0' ≤ c ∧ c ≤ '9' then some (c.toNat - '0'.toNat)
  else if 'a' ≤ c ∧ c ≤ 'f' then some (c.toNat - 'a'.toNat + 10)
  else if 'A' ≤ c ∧ c ≤ 'F' then some (c.toNat - 'A'.toNat + 10)
  else none

/-- The two digits of an octet. -/
def hexDigits (octet : UInt8) : List Char :=
  [Nat.digitChar (octet.toNat / 16), Nat.digitChar (octet.toNat % 16)]

/-- The octets of digits, behind octets that were read before, latest first. -/
def ofHexDigits? : (read : Octets) → List Char → Option Octets
  | read, [] => some read.reverse
  | _, [_] => none
  | read, high :: low :: digits =>
    match hexValue? high, hexValue? low with
    | some high, some low => ofHexDigits? (.ofNat (high * 16 + low) :: read) digits
    | _, _ => none

/-- The text of octets. -/
def toHex (octets : Octets) : String := .ofList (octets.flatMap hexDigits)

/-- The octets that a text spells. -/
def ofHex? (text : String) : Option Octets := ofHexDigits? [] text.toList

theorem hexValue?_digitChar {n : Nat} (h : n < 16) : hexValue? (Nat.digitChar n) = some n := by
  have all : ∀ n : Fin 16, hexValue? (Nat.digitChar n) = some n.val := by decide
  exact all ⟨n, h⟩

theorem ofHexDigits?_hexDigits (octets read : Octets) :
    ofHexDigits? read (octets.flatMap hexDigits) = some (read.reverse ++ octets) := by
  induction octets generalizing read with
  | nil => simp [ofHexDigits?]
  | cons octet octets ih =>
    have bound : octet.toNat < 256 := octet.toNat_lt
    have whole : UInt8.ofNat (octet.toNat / 16 * 16 + octet.toNat % 16) = octet := by
      rw [Nat.mul_comm, Nat.div_add_mod, UInt8.ofNat_toNat]
    simp [hexDigits, ofHexDigits?, hexValue?_digitChar (show octet.toNat / 16 < 16 by omega),
      hexValue?_digitChar (show octet.toNat % 16 < 16 by omega), whole, ih]

theorem ofHex?_toHex (octets : Octets) : ofHex? octets.toHex = some octets := by
  simp [ofHex?, toHex, ofHexDigits?_hexDigits]

end Bacnet.Octets
