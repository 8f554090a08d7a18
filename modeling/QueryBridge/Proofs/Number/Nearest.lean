import Mathlib.Algebra.Order.Ring.Abs
import Mathlib.Tactic.Linarith
import Mathlib.Tactic.NormNum
import QueryBridge.Proofs.Number.Value

/-!
The value nearest to a rational number among those that fit in 64 bits. Of two that are equally near
the one with an even mantissa counts, which makes it the only one: neighbours have mantissas of
different parity.
-/

namespace QueryBridge

theorem exists_mul_zpow (m : ℕ) {e e' : ℤ} (h : e ≤ e') :
    ∃ k : ℕ, (m : ℚ) * 2 ^ e' = k * 2 ^ e ∧ (Even m → Even k) := by
  refine ⟨m * 2 ^ (e' - e).toNat, ?_, fun hm => hm.mul_right _⟩
  rw [Nat.cast_mul, Nat.cast_pow, Nat.cast_ofNat, ← zpow_natCast, Int.toNat_of_nonneg (by omega),
    mul_assoc, ← zpow_add₀ two_ne_zero, sub_add_cancel]

namespace Dyadic

structure Fits (x : Dyadic) : Prop where
  mantissa_lt : x.mantissa < 2 ^ 53
  le_exponent : -1074 ≤ x.exponent
  exponent_le : x.exponent ≤ 971

/-- The value nearest to `q` that fits, of two equally near ones the one with an even mantissa. All
53 digits of the mantissa are used where there are that many. -/
structure Nearest (q : ℚ) (x : Dyadic) : Prop where
  fits : x.Fits
  full : x.mantissa < 2 ^ 52 → x.mantissa = 0 ∨ x.exponent = -1074
  le : ∀ y : Dyadic, y.Fits → |x.magnitude - q| ≤ |y.magnitude - q|
  even : ∀ y : Dyadic, y.Fits → y.magnitude ≠ x.magnitude →
    |y.magnitude - q| = |x.magnitude - q| → Even x.mantissa

theorem Fits.least_le {y : Dyadic} (hy : y.Fits) (h : y.mantissa ≠ 0) :
    2 ^ (-1074 : ℤ) ≤ y.magnitude := by
  have hone : (1 : ℚ) ≤ y.mantissa := by exact_mod_cast Nat.one_le_iff_ne_zero.2 h
  calc (2 : ℚ) ^ (-1074 : ℤ) ≤ 2 ^ y.exponent := zpow_le_zpow_right₀ one_le_two hy.le_exponent
    _ ≤ _ := le_mul_of_one_le_left (zpow_pos two_pos _).le hone

theorem zero_nearest (negative : Bool) {q : ℚ} (hq : 0 ≤ q) (hlt : q < 2 ^ (-1075 : ℤ)) :
    Nearest q ⟨negative, 0, 0⟩ := by
  have hmag : magnitude ⟨negative, 0, 0⟩ = 0 := by simp [magnitude]
  refine ⟨⟨by simp, by simp, by simp⟩, fun _ => .inl rfl, fun y hy => ?_, fun _ _ _ _ => .zero⟩
  rw [hmag, zero_sub, abs_neg, abs_of_nonneg hq]
  rcases Nat.eq_zero_or_pos y.mantissa with hzero | hpos
  · simp [magnitude, hzero, abs_of_nonneg hq]
  · have hleast := hy.least_le hpos.ne'
    have hdouble : (2 : ℚ) ^ (-1074 : ℤ) = 2 ^ (-1075 : ℤ) * 2 := zpow_add_one₀ two_ne_zero (-1075)
    have hfar : q ≤ y.magnitude - q := by linarith
    exact hfar.trans (le_abs_self _)

theorem Fits.magnitude_lt {y : Dyadic} (hy : y.Fits) {e : ℤ} (h : y.exponent < e) :
    y.magnitude < 2 ^ 52 * 2 ^ e := by
  have hlt : (y.mantissa : ℚ) < 2 ^ 53 := by exact_mod_cast hy.mantissa_lt
  calc y.magnitude < 2 ^ 53 * 2 ^ y.exponent :=
        mul_lt_mul_of_pos_right hlt (zpow_pos two_pos _)
    _ = 2 ^ 52 * 2 ^ (y.exponent + 1) := by
        rw [zpow_add_one₀ two_ne_zero]
        ring
    _ ≤ _ := mul_le_mul_of_nonneg_left (zpow_le_zpow_right₀ one_le_two h) (by positivity)

variable {q : ℚ} {x y : Dyadic}

theorem Nearest.dist_eq (hx : x.Nearest q) (hy : y.Nearest q) :
    |y.magnitude - q| = |x.magnitude - q| :=
  le_antisymm (hy.le x hx.fits) (hx.le y hy.fits)

theorem Nearest.not_between {z : Dyadic} (hx : x.Nearest q) (hy : y.Nearest q)
    (hz : z.Fits) (hxz : x.magnitude < z.magnitude) : y.magnitude ≤ z.magnitude := by
  by_contra! hzy
  have hdist := hx.dist_eq hy
  have hnear : |z.magnitude - q| < |x.magnitude - q| := by
    refine abs_lt.2 ⟨?_, ?_⟩
    · linarith [neg_abs_le (x.magnitude - q)]
    · linarith [le_abs_self (y.magnitude - q)]
  exact absurd (hx.le z hz) (not_le.2 hnear)

def withMantissa (x : Dyadic) (m : ℕ) : Dyadic :=
  { x with mantissa := m }

theorem magnitude_withMantissa (x : Dyadic) (m : ℕ) :
    (x.withMantissa m).magnitude = m * 2 ^ x.exponent :=
  rfl

theorem Fits.withMantissa {x : Dyadic} (hx : x.Fits) {m : ℕ} (hm : m < 2 ^ 53) :
    (x.withMantissa m).Fits :=
  ⟨hm, hx.le_exponent, hx.exponent_le⟩

theorem Nearest.le_next (hx : x.Nearest q) (hy : y.Nearest q) (heven : Even x.mantissa) :
    y.magnitude ≤ (x.mantissa + 1 : ℕ) * 2 ^ x.exponent := by
  have hbound := hx.fits.mantissa_lt
  rw [Nat.even_iff] at heven
  have hfits : (x.withMantissa (x.mantissa + 1)).Fits := hx.fits.withMantissa (by omega)
  have hnext : x.magnitude < (x.withMantissa (x.mantissa + 1)).magnitude := by
    rw [magnitude_withMantissa]
    exact mul_lt_mul_of_pos_right (Nat.cast_lt.2 (Nat.lt_succ_self _)) (zpow_pos two_pos _)
  rw [← magnitude_withMantissa]
  exact hx.not_between hy hfits hnext

theorem Nearest.previous_le (hx : x.Nearest q) (hy : y.Nearest q) (hpos : 0 < y.mantissa) :
    (y.mantissa - 1 : ℕ) * 2 ^ y.exponent ≤ x.magnitude := by
  have hfits : (y.withMantissa (y.mantissa - 1)).Fits :=
    hy.fits.withMantissa ((Nat.sub_le _ _).trans_lt hy.fits.mantissa_lt)
  have hprevious : (y.withMantissa (y.mantissa - 1)).magnitude < y.magnitude := by
    rw [magnitude_withMantissa]
    exact mul_lt_mul_of_pos_right (Nat.cast_lt.2 (Nat.sub_one_lt hpos.ne')) (zpow_pos two_pos _)
  rw [← magnitude_withMantissa]
  by_contra! hlt
  exact absurd (hx.not_between hy hfits hlt) (not_le.2 hprevious)

/-- Neighbours cannot both have an even mantissa. -/
theorem Nearest.magnitude_le (hx : x.Nearest q) (hy : y.Nearest q) :
    y.magnitude ≤ x.magnitude := by
  by_contra! hlt
  have hxeven := hx.even y hy.fits hlt.ne' (hx.dist_eq hy)
  have hyeven := hy.even x hx.fits hlt.ne (hy.dist_eq hx)
  rcases le_total x.exponent y.exponent with hle | hle
  · -- the value after the lower one is odd
    have hpos : (0 : ℚ) < 2 ^ x.exponent := zpow_pos two_pos _
    have hnext := hx.le_next hy hxeven
    obtain ⟨k, hk, heven⟩ := exists_mul_zpow y.mantissa hle
    have hkeven := heven hyeven
    rw [magnitude, magnitude, hk, mul_lt_mul_iff_left₀ hpos, Nat.cast_lt] at hlt
    rw [magnitude, hk, mul_le_mul_iff_left₀ hpos, Nat.cast_le] at hnext
    rw [Nat.even_iff] at hxeven hkeven
    omega
  · -- the value before the upper one is odd
    have hpos : (0 : ℚ) < 2 ^ y.exponent := zpow_pos two_pos _
    obtain ⟨k, hk, heven⟩ := exists_mul_zpow x.mantissa hle
    have hkeven := heven hxeven
    rw [magnitude, magnitude, hk, mul_lt_mul_iff_left₀ hpos, Nat.cast_lt] at hlt
    have hprevious := hx.previous_le hy (Nat.zero_lt_of_lt hlt)
    rw [magnitude, hk, mul_le_mul_iff_left₀ hpos, Nat.cast_le] at hprevious
    rw [Nat.even_iff] at hyeven hkeven
    omega

theorem Nearest.magnitude_eq (hx : x.Nearest q) (hy : y.Nearest q) :
    x.magnitude = y.magnitude :=
  le_antisymm (hy.magnitude_le hx) (hx.magnitude_le hy)

theorem Nearest.exponent_le (hx : x.Nearest q) (hy : y.Nearest q)
    (h0 : y.magnitude ≠ 0) : y.exponent ≤ x.exponent := by
  by_contra! hlt
  have hpos : (0 : ℚ) < 2 ^ y.exponent := zpow_pos two_pos _
  have hfull : 2 ^ 52 ≤ y.mantissa := by
    by_contra! hsmall
    rcases hy.full hsmall with hzero | hleast
    · exact h0 (by rw [magnitude, hzero, Nat.cast_zero, zero_mul])
    · exact absurd hx.fits.le_exponent (not_le.2 (hleast ▸ hlt))
  have hge : (2 : ℚ) ^ 52 * 2 ^ y.exponent ≤ y.magnitude :=
    mul_le_mul_of_nonneg_right (by exact_mod_cast hfull) hpos.le
  exact absurd (hx.fits.magnitude_lt hlt) (not_lt.2 (hx.magnitude_eq hy ▸ hge))

theorem Nearest.eq (hx : x.Nearest q) (hy : y.Nearest q)
    (hsign : x.negative = y.negative) (h0 : x.magnitude ≠ 0) : x = y := by
  have hmag := hx.magnitude_eq hy
  have hexp : x.exponent = y.exponent :=
    le_antisymm (hy.exponent_le hx h0) (hx.exponent_le hy (hmag ▸ h0))
  have hmantissa : x.mantissa = y.mantissa := by
    rw [magnitude, magnitude, hexp, mul_left_inj' (zpow_pos two_pos _).ne', Nat.cast_inj] at hmag
    exact hmag
  cases x
  cases y
  simp_all

end Dyadic

end QueryBridge
