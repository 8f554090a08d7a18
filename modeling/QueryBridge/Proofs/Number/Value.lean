import Mathlib.Algebra.Order.Floor.Semifield
import Mathlib.Data.Rat.Floor
import QueryBridge.Number.Basic

/-!
The rational number that a binary value stands for. Comparisons and the rounding to whole numbers
are those of that number.
-/

namespace QueryBridge

theorem powerNum_div_powerDen {base : Nat} (h : base ≠ 0) (e : Int) :
    (powerNum base e : ℚ) / powerDen base e = (base : ℚ) ^ e := by
  have hbase : (base : ℚ) ≠ 0 := Nat.cast_ne_zero.2 h
  have he : e = (e.toNat : Int) - ((-e).toNat : Int) := (Int.toNat_sub_toNat_neg e).symm
  conv => rhs; rw [he, zpow_sub₀ hbase, zpow_natCast, zpow_natCast]
  rw [powerNum, powerDen, Nat.pow_eq, Nat.pow_eq, Nat.cast_pow, Nat.cast_pow]

namespace Dyadic

def magnitude (x : Dyadic) : ℚ :=
  x.mantissa * 2 ^ x.exponent

def value (x : Dyadic) : ℚ :=
  if x.negative then -x.magnitude else x.magnitude

variable (x : Dyadic)

theorem num_div_den : (x.num : ℚ) / x.den = x.magnitude := by
  rw [num, den, Nat.cast_mul, mul_div_assoc, powerNum_div_powerDen two_ne_zero, magnitude,
    Nat.cast_ofNat]

theorem den_cast_pos : (0 : ℚ) < x.den :=
  Nat.cast_pos.2 x.den_pos

theorem magnitude_nonneg : 0 ≤ x.magnitude :=
  mul_nonneg (Nat.cast_nonneg _) (zpow_pos two_pos _).le

theorem magnitude_pos_iff : 0 < x.magnitude ↔ x.mantissa ≠ 0 := by
  rw [magnitude, mul_pos_iff_of_pos_right (zpow_pos two_pos _), Nat.cast_pos,
    Nat.pos_iff_ne_zero]

theorem belowZero_iff : x.belowZero = true ↔ x.value < 0 := by
  have hpos := x.magnitude_pos_iff
  have hnonneg := x.magnitude_nonneg
  rw [belowZero, isZero, value]
  cases x.negative with
  | true => simp [hpos]
  | false => simp [hnonneg]

theorem exceeds_iff (n : Nat) : x.exceeds n = true ↔ (n : ℚ) < x.value := by
  rw [exceeds, value]
  cases x.negative with
  | true =>
    have hle : -x.magnitude ≤ n := (neg_nonpos.2 x.magnitude_nonneg).trans n.cast_nonneg
    simp [hle]
  | false =>
    have hlt : (n : ℚ) < x.magnitude ↔ n * x.den < x.num := by
      rw [← num_div_den, lt_div_iff₀ x.den_cast_pos]
      exact_mod_cast Iff.rfl
    simp [hlt]

theorem magnitude_of_nonneg {x : Dyadic} (h : 0 ≤ x.value) : x.magnitude = x.value := by
  have hnonneg := x.magnitude_nonneg
  unfold value at h ⊢
  split
  · next hneg =>
    rw [if_pos hneg] at h
    linarith
  · rfl

theorem floor_eq {x : Dyadic} (h : 0 ≤ x.value) : x.floor = ⌊x.value⌋₊ := by
  rw [← magnitude_of_nonneg h, ← num_div_den, Nat.floor_div_eq_div, floor]

theorem ceil_eq {x : Dyadic} (h : 0 ≤ x.value) : x.ceil = ⌈x.value⌉₊ := by
  refine eq_of_forall_ge_iff fun n => ?_
  rw [Nat.ceil_le, ← magnitude_of_nonneg h, ← num_div_den, div_le_iff₀ x.den_cast_pos, ceil]
  have hnat : (x.num : ℚ) ≤ n * x.den ↔ x.num ≤ n * x.den := by exact_mod_cast Iff.rfl
  rw [hnat, ← Nat.lt_succ_iff, Nat.div_lt_iff_lt_mul x.den_pos, Nat.succ_mul]
  have := x.den_pos
  omega

end Dyadic

end QueryBridge
