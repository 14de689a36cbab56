import Bacnet.Octets
import Mathlib.Tactic.Common

set_option autoImplicit false

/-! # Numbers in octets

`toNat` undoes `ofNat` up to the width: what is read back is the number modulo `256 ^ width`, so
every number that fits is read back as itself. The words of 16, 32 and 64 bits always fit. The other
way round every run of octets is the one spelling of its number in its width (`ofNat_toNat`). -/

namespace Bacnet.Octets

theorem foldl_eq_add_toNat (octets : Octets) (n : Nat) :
    octets.foldl (fun n octet => n * 256 + octet.toNat) n
      = n * 256 ^ octets.length + toNat octets := by
  induction octets generalizing n with
  | nil => simp [toNat]
  | cons o octets ih =>
      rw [toNat, List.foldl_cons, List.foldl_cons, ih, ih (0 * 256 + o.toNat), List.length_cons,
        Nat.pow_succ]
      grind

theorem toNat_cons (o : UInt8) (octets : Octets) :
    toNat (o :: octets) = o.toNat * 256 ^ octets.length + toNat octets := by
  rw [toNat, List.foldl_cons, foldl_eq_add_toNat]
  simp

theorem toNat_append (a b : Octets) : toNat (a ++ b) = toNat a * 256 ^ b.length + toNat b := by
  rw [toNat, List.foldl_append, foldl_eq_add_toNat, ← toNat]

theorem toNat_replicate_zero (n : Nat) : toNat (List.replicate n 0) = 0 := by
  induction n with
  | zero => rfl
  | succ n ih => rw [List.replicate_succ, toNat_cons, ih]; simp

theorem toNat_replicate_max (n : Nat) : toNat (List.replicate n 0xFF) + 1 = 256 ^ n := by
  induction n with
  | zero => rfl
  | succ n ih =>
      have hmax : (0xFF : UInt8).toNat = 255 := rfl
      rw [List.replicate_succ, toNat_cons, List.length_replicate, Nat.add_assoc, ih, Nat.pow_succ,
        hmax]
      omega

/-- Zeros in front do not count. -/
theorem toNat_zeros_append (n : Nat) (octets : Octets) :
    toNat (List.replicate n 0 ++ octets) = toNat octets := by
  rw [toNat_append, toNat_replicate_zero, Nat.zero_mul, Nat.zero_add]

/-- Ones in front count as one less than the place value that follows them. -/
theorem toNat_ones_append (n : Nat) (octets : Octets) :
    toNat (List.replicate n 0xFF ++ octets) + 256 ^ octets.length
      = 256 ^ (n + octets.length) + toNat octets := by
  rw [toNat_append, Nat.pow_add, ← toNat_replicate_max n, Nat.succ_mul]
  omega

theorem toNat_ofNat (width n : Nat) : toNat (ofNat width n) = n % 256 ^ width := by
  induction width with
  | zero => simp [ofNat, toNat, Nat.mod_one]
  | succ width ih =>
      rw [ofNat, toNat_cons, ih, length_ofNat, Nat.mod_pow_succ, UInt8.toNat_ofNat', Nat.add_comm,
        Nat.mul_comm]

theorem toNat_ofNat_of_lt {width n : Nat} (h : n < 256 ^ width) : toNat (ofNat width n) = n := by
  rw [toNat_ofNat, Nat.mod_eq_of_lt h]

theorem toNat_lt (octets : Octets) : toNat octets < 256 ^ octets.length := by
  induction octets with
  | nil => decide
  | cons o octets ih =>
      have ho : o.toNat + 1 ≤ 256 := o.toNat_lt
      rw [toNat_cons, List.length_cons, Nat.pow_succ]
      calc o.toNat * 256 ^ octets.length + toNat octets
          < o.toNat * 256 ^ octets.length + 256 ^ octets.length := Nat.add_lt_add_left ih _
        _ = (o.toNat + 1) * 256 ^ octets.length := by rw [Nat.succ_mul]
        _ ≤ 256 * 256 ^ octets.length := Nat.mul_le_mul_right _ ho
        _ = 256 ^ octets.length * 256 := Nat.mul_comm ..

/-- The last octets of a number do not depend on how many there are in front of them. -/
theorem drop_ofNat (k width n : Nat) : (ofNat (k + width) n).drop k = ofNat width n := by
  induction k with
  | zero => rw [Nat.zero_add, List.drop_zero]
  | succ k ih => rw [Nat.succ_add, ofNat, List.drop_succ_cons, ih]

/-- A number of octets has one spelling. -/
theorem eq_of_toNat_eq {a b : Octets} (hlength : a.length = b.length) (h : toNat a = toNat b) :
    a = b := by
  induction a generalizing b with
  | nil => rw [List.length_nil] at hlength; rw [List.length_eq_zero_iff.1 hlength.symm]
  | cons o a ih =>
      cases b with
      | nil => cases hlength
      | cons p b =>
          have hrest : a.length = b.length := by simpa using hlength
          have hpos : 0 < 256 ^ b.length := Nat.pow_pos (by decide)
          have ha : toNat a < 256 ^ b.length := hrest ▸ toNat_lt a
          have hb : toNat b < 256 ^ b.length := toNat_lt b
          rw [toNat_cons, toNat_cons, hrest] at h
          -- The first octets are the quotients by the place value of what is behind them.
          have hfirst : o.toNat = p.toNat := by
            have hdiv := congrArg (· / 256 ^ b.length) h
            simpa [Nat.mul_comm _ (256 ^ b.length), Nat.mul_add_div hpos, Nat.div_eq_of_lt ha,
              Nat.div_eq_of_lt hb] using hdiv
          rw [hfirst] at h
          rw [UInt8.toNat_inj.1 hfirst, ih hrest (Nat.add_left_cancel h)]

theorem ofNat_toNat (octets : Octets) : ofNat octets.length (toNat octets) = octets := by
  refine eq_of_toNat_eq (length_ofNat ..) ?_
  rw [toNat_ofNat_of_lt (toNat_lt octets)]

@[simp] theorem toNat_ofUInt16 (word : UInt16) : toNat (ofUInt16 word) = word.toNat := by
  rw [ofUInt16, toNat_ofNat_of_lt]
  exact word.toNat_lt

@[simp] theorem toNat_ofUInt32 (word : UInt32) : toNat (ofUInt32 word) = word.toNat := by
  rw [ofUInt32, toNat_ofNat_of_lt]
  exact word.toNat_lt

@[simp] theorem toNat_ofUInt64 (word : UInt64) : toNat (ofUInt64 word) = word.toNat := by
  rw [ofUInt64, toNat_ofNat_of_lt]
  exact word.toNat_lt

@[simp] theorem length_ofUInt16 (word : UInt16) : (ofUInt16 word).length = 2 := length_ofNat ..

@[simp] theorem length_ofUInt32 (word : UInt32) : (ofUInt32 word).length = 4 := length_ofNat ..

@[simp] theorem length_ofUInt64 (word : UInt64) : (ofUInt64 word).length = 8 := length_ofNat ..

theorem ofUInt16_ofNat_toNat {octets : Octets} (h : octets.length = 2) :
    ofUInt16 (.ofNat (toNat octets)) = octets := by
  have hlt : toNat octets < 256 ^ 2 := by simpa [h] using toNat_lt octets
  rw [ofUInt16, UInt16.toNat_ofNat_of_lt' hlt, ← h, ofNat_toNat]

theorem ofUInt32_ofNat_toNat {octets : Octets} (h : octets.length = 4) :
    ofUInt32 (.ofNat (toNat octets)) = octets := by
  have hlt : toNat octets < 256 ^ 4 := by simpa [h] using toNat_lt octets
  rw [ofUInt32, UInt32.toNat_ofNat_of_lt' hlt, ← h, ofNat_toNat]

/-! ## Halves of an octet -/

theorem toNat_halves {high low : UInt8} (hh : high < 16) (hl : low < 16) :
    (high <<< 4 ||| low).toNat = high.toNat * 16 + low.toNat := by
  have h₁ : high.toNat < 16 := UInt8.lt_iff_toNat_lt.1 hh
  have h₂ : low.toNat < 2 ^ 4 := UInt8.lt_iff_toNat_lt.1 hl
  rw [UInt8.toNat_or, UInt8.toNat_shiftLeft]
  show high.toNat <<< 4 % 256 ||| low.toNat = _
  rw [Nat.shiftLeft_eq, Nat.mod_eq_of_lt (by omega), Nat.mul_comm,
    ← Nat.two_pow_add_eq_or_of_lt h₂]

theorem halves_shiftRight {high low : UInt8} (hh : high < 16) (hl : low < 16) :
    (high <<< 4 ||| low) >>> 4 = high := by
  have h₂ : low.toNat < 16 := UInt8.lt_iff_toNat_lt.1 hl
  apply UInt8.toNat_inj.1
  rw [UInt8.toNat_shiftRight, toNat_halves hh hl]
  show (high.toNat * 16 + low.toNat) >>> 4 = _
  rw [Nat.shiftRight_eq_div_pow]
  omega

theorem halves_and {high low : UInt8} (hh : high < 16) (hl : low < 16) :
    (high <<< 4 ||| low) &&& 15 = low := by
  have h₂ : low.toNat < 16 := UInt8.lt_iff_toNat_lt.1 hl
  apply UInt8.toNat_inj.1
  rw [UInt8.toNat_and, toNat_halves hh hl]
  show (high.toNat * 16 + low.toNat) &&& (2 ^ 4 - 1) = _
  rw [Nat.and_two_pow_sub_one_eq_mod]
  omega

theorem and_lt_sixteen {mask : UInt8} (h : mask < 16) (o : UInt8) : o &&& mask < 16 := by
  rw [UInt8.lt_iff_toNat_lt] at h ⊢
  rw [UInt8.toNat_and]
  exact Nat.lt_of_le_of_lt Nat.and_le_right h

theorem and_fifteen_of_lt {o : UInt8} (h : o < 16) : o &&& 15 = o := by
  have hn : o.toNat < 16 := UInt8.lt_iff_toNat_lt.1 h
  apply UInt8.toNat_inj.1
  rw [UInt8.toNat_and]
  show o.toNat &&& (2 ^ 4 - 1) = _
  rw [Nat.and_two_pow_sub_one_eq_mod]
  omega

/-- The halves of an octet put together, without the first bit of the high one. -/
theorem halves_of_octet (o : UInt8) : (o >>> 4 &&& 7) <<< 4 ||| o &&& 15 = o &&& ~~~0x80 := by
  have hhigh : o >>> 4 &&& 7 < 16 := and_lt_sixteen (by decide) _
  have hlow : o &&& 15 < 16 := and_lt_sixteen (by decide) o
  have hshift : (o >>> 4 &&& 7).toNat = o.toNat / 16 % 8 := by
    rw [UInt8.toNat_and, UInt8.toNat_shiftRight]
    show o.toNat >>> 4 &&& (2 ^ 3 - 1) = _
    rw [Nat.and_two_pow_sub_one_eq_mod, Nat.shiftRight_eq_div_pow]
  have hrest : (o &&& 15).toNat = o.toNat % 16 := by
    rw [UInt8.toNat_and]
    exact Nat.and_two_pow_sub_one_eq_mod o.toNat 4
  have hall : (o &&& ~~~0x80).toNat = o.toNat % 128 := by
    rw [UInt8.toNat_and]
    exact Nat.and_two_pow_sub_one_eq_mod o.toNat 7
  apply UInt8.toNat_inj.1
  rw [toNat_halves hhigh hlow, hshift, hrest, hall]
  omega

end Bacnet.Octets
