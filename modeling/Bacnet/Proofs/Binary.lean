import Bacnet.Template.Typing

set_option autoImplicit false

/-! # Bits of another format

Bits that become bits of another format keep their sign and their kind: no number stays none, and a
number never becomes none (`BinaryFormat.isNan_ofBits`). A template may hold any double, so what is
set for a real or a double property is no number just if the template says so
(`Setting.toValue_float`). -/

namespace Bacnet

namespace BinaryFormat

variable {f g : BinaryFormat} {bits magnitude : Nat}

/-! ## Signs and magnitudes -/

/-- Between infinity and the bit of the sign there is room for fractions and for nothing else. -/
theorem infinity_add (f : BinaryFormat) : f.infinity + 2 ^ (f.precision - 1) = f.signBit := by
  have hpos : 1 ≤ 2 ^ f.exponentBits := Nat.one_le_two_pow
  rw [infinity, signBit, Nat.pow_add, Nat.mul_comm (2 ^ (f.precision - 1)), ← Nat.succ_mul,
    Nat.succ_eq_add_one, Nat.sub_add_cancel hpos]

theorem infinity_lt_signBit (f : BinaryFormat) : f.infinity < f.signBit := by
  rw [← f.infinity_add]
  exact Nat.lt_add_of_pos_right (Nat.two_pow_pos _)

theorem magnitude_signed (negative : Bool) (h : bits < f.signBit) :
    f.magnitude (f.signed negative bits) = bits := by
  cases negative with
  | false => exact Nat.mod_eq_of_lt h
  | true =>
      show (f.signBit + bits) % f.signBit = bits
      rw [Nat.add_mod_left, Nat.mod_eq_of_lt h]

theorem isNegative_signed (negative : Bool) (h : bits < f.signBit) :
    f.isNegative (f.signed negative bits) = negative := by
  cases negative with
  | false => exact decide_eq_false (Nat.not_le.2 h)
  | true => exact decide_eq_true (Nat.le_add_right ..)

theorem signed_lt (negative : Bool) (h : bits < f.signBit) :
    f.signed negative bits < 2 * f.signBit := by
  cases negative with
  | false => exact Nat.lt_of_lt_of_le h (Nat.le_mul_of_pos_left _ Nat.two_pos)
  | true =>
      show f.signBit + bits < 2 * f.signBit
      rw [Nat.two_mul]
      exact Nat.add_lt_add_left h _

/-! ## Conversions -/

/-- No number stays none, and there is room for what is kept of it below the bit of the sign. -/
theorem nanOf_bounds (hf : 2 ≤ f.precision) (hg : 2 ≤ g.precision) (magnitude : Nat) :
    f.infinity < f.nanOf g magnitude ∧ f.nanOf g magnitude < f.signBit := by
  have hquiet : 2 ^ (f.precision - 2) < 2 ^ (f.precision - 1) :=
    Nat.pow_lt_pow_right (by decide) (by omega)
  have hfraction : magnitude % 2 ^ (g.precision - 1) * 2 ^ f.precision / 2 ^ g.precision
      < 2 ^ (f.precision - 1) := by
    have hmod : magnitude % 2 ^ (g.precision - 1) < 2 ^ (g.precision - 1) :=
      Nat.mod_lt _ (Nat.two_pow_pos _)
    have hscale : 2 ^ (g.precision - 1) * 2 ^ f.precision
        = 2 ^ (f.precision - 1) * 2 ^ g.precision := by
      rw [← Nat.pow_add, ← Nat.pow_add]
      congr 1
      omega
    rw [Nat.div_lt_iff_lt_mul (Nat.two_pow_pos _), ← hscale]
    exact Nat.mul_lt_mul_of_pos_right hmod (Nat.two_pow_pos _)
  have hpayload := Nat.or_lt_two_pow hquiet hfraction
  constructor
  · exact Nat.lt_add_of_pos_right (Nat.lt_of_lt_of_le (Nat.two_pow_pos _) Nat.left_le_or)
  · rw [← f.infinity_add]
    exact Nat.add_lt_add_left hpayload _

/-- What a magnitude becomes is above infinity just if the magnitude was. -/
theorem infinity_lt_ofMagnitude_iff (hf : 2 ≤ f.precision) (hg : 2 ≤ g.precision) :
    f.infinity < f.ofMagnitude g magnitude ↔ g.infinity < magnitude := by
  rcases Nat.lt_trichotomy magnitude g.infinity with hfinite | rfl | hnan
  · rw [ofMagnitude, if_pos hfinite]
    exact iff_of_false (Nat.not_lt.2 (Nat.min_le_left ..)) (Nat.lt_asymm hfinite)
  · rw [ofMagnitude, if_neg (Nat.lt_irrefl _), if_pos rfl]
    exact iff_of_false (Nat.lt_irrefl _) (Nat.lt_irrefl _)
  · rw [ofMagnitude, if_neg (Nat.lt_asymm hnan), if_neg (Nat.ne_of_gt hnan)]
    exact iff_of_true (nanOf_bounds hf hg magnitude).1 hnan

theorem ofMagnitude_lt_signBit (hf : 2 ≤ f.precision) (hg : 2 ≤ g.precision) :
    f.ofMagnitude g magnitude < f.signBit := by
  unfold ofMagnitude
  split
  · exact Nat.lt_of_le_of_lt (Nat.min_le_left ..) f.infinity_lt_signBit
  · split
    · exact f.infinity_lt_signBit
    · exact (nanOf_bounds hf hg magnitude).2

section

variable (hf : 2 ≤ f.precision) (hg : 2 ≤ g.precision)

include hf hg

theorem isNegative_ofBits (bits : Nat) : f.isNegative (f.ofBits g bits) = g.isNegative bits := by
  by_cases hsame : f = g
  · rw [ofBits, if_pos hsame, hsame]
  · rw [ofBits, if_neg hsame]
    exact isNegative_signed _ (ofMagnitude_lt_signBit hf hg)

theorem isNan_ofBits (bits : Nat) : f.isNan (f.ofBits g bits) = g.isNan bits := by
  by_cases hsame : f = g
  · rw [ofBits, if_pos hsame, hsame]
  · rw [ofBits, if_neg hsame, isNan, magnitude_signed _ (ofMagnitude_lt_signBit hf hg)]
    exact decide_eq_decide.2 (infinity_lt_ofMagnitude_iff hf hg)

theorem ofBits_lt (hbits : bits < 2 * g.signBit) : f.ofBits g bits < 2 * f.signBit := by
  by_cases hsame : f = g
  · rw [ofBits, if_pos hsame, hsame]
    exact hbits
  · rw [ofBits, if_neg hsame]
    exact signed_lt _ (ofMagnitude_lt_signBit hf hg)

end

end BinaryFormat

/-! ## Settings -/

namespace Setting

open BinaryFormat

/-- A number set for a double property is its value, bit for bit. For a real property the value has
    its sign, and is no number just if it is none. -/
theorem toValue_float (p : PropertyId) (bits : UInt64) :
    (float bits).toValue p .double = .ok (.double bits) ∧
    ∃ word : UInt32, (float bits).toValue p .real = .ok (.real word) ∧
      single.isNegative word.toNat = double.isNegative bits.toNat ∧
      single.isNan word.toNat = double.isNan bits.toNat := by
  constructor
  · show Except.ok (Value.double (.ofNat bits.toNat)) = .ok (.double bits)
    rw [UInt64.ofNat_toNat]
  · have hlt : single.ofBits double bits.toNat < 2 * single.signBit :=
      ofBits_lt (by decide) (by decide) bits.toNat_lt
    have hword : (UInt32.ofNat (single.ofBits double bits.toNat)).toNat
        = single.ofBits double bits.toNat := UInt32.toNat_ofNat_of_lt' hlt
    refine ⟨.ofNat (single.ofBits double bits.toNat), rfl, ?_, ?_⟩
    · rw [hword]
      exact isNegative_ofBits (by decide) (by decide) _
    · rw [hword]
      exact isNan_ofBits (by decide) (by decide) _

example : (float 0x7FF8000000000000).toValue .presentValue .real = .ok (.real 0x7FC00000) := rfl

end Setting

end Bacnet
