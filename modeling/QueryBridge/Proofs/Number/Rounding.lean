import QueryBridge.Number.Rounding
import QueryBridge.Proofs.Number.Nearest

/-!
Rounding gives the nearest value that fits, and an infinity from halfway beyond the largest on. A
unit is chosen so that every value that fits is a multiple of it or lies further below; rounding to
a whole number of units then leaves no nearer value.
-/

namespace QueryBridge

structure HalfEven (r : ℚ) (m : ℕ) : Prop where
  near : |m - r| ≤ 1 / 2
  even : |m - r| = 1 / 2 → Even m

namespace HalfEven

variable {r : ℚ} {m k : ℕ}

theorem half_le (h : HalfEven r m) (hk : k ≠ m) : 1 / 2 ≤ |k - r| := by
  have hone : (1 : ℚ) ≤ |(k : ℚ) - m| := by
    exact_mod_cast Int.one_le_abs (sub_ne_zero.2 (Nat.cast_injective.ne hk : (k : ℤ) ≠ m))
  have htri : |(k : ℚ) - m| ≤ |k - r| + |m - r| := by
    rw [abs_sub_comm (m : ℚ)]
    exact abs_sub_le _ _ _
  linarith [h.near]

theorem le (h : HalfEven r m) (k : ℕ) : |m - r| ≤ |k - r| := by
  rcases eq_or_ne k m with rfl | hk
  · exact le_rfl
  · exact h.near.trans (h.half_le hk)

theorem even_of_eq (h : HalfEven r m) (hk : k ≠ m) (heq : |k - r| = |m - r|) : Even m :=
  h.even (le_antisymm h.near (heq ▸ h.half_le hk))

theorem ge_of_ge (h : HalfEven r m) (hk : (k : ℚ) ≤ r) : k ≤ m := by
  have hnear := (abs_le.1 h.near).1
  have hlt : (k : ℚ) < m + 1 := by linarith
  exact Nat.lt_add_one_iff.1 (by exact_mod_cast hlt)

theorem le_of_le (h : HalfEven r m) (hk : r ≤ (k : ℚ)) : m ≤ k := by
  have hnear := (abs_le.1 h.near).2
  have hlt : (m : ℚ) < k + 1 := by linarith
  exact Nat.lt_add_one_iff.1 (by exact_mod_cast hlt)

theorem le_iff_of_odd (h : HalfEven r m) (hk : Odd k) : m ≤ k ↔ r < k + 1 / 2 := by
  have hnear := abs_le.1 h.near
  constructor
  · intro hle
    have hle' : (m : ℚ) ≤ k := by exact_mod_cast hle
    refine lt_of_le_of_ne (by linarith) fun heq => ?_
    have hmk : (m : ℚ) = k := by linarith
    have heven : Even k := by
      have := h.even (by rw [hmk, heq, sub_add_cancel_left, abs_neg]; norm_num)
      rwa [Nat.cast_injective hmk] at this
    exact Nat.not_even_iff_odd.2 hk heven
  · intro hlt
    have hlt' : (m : ℚ) < k + 1 := by linarith
    exact Nat.lt_add_one_iff.1 (by exact_mod_cast hlt')

end HalfEven

namespace Number

variable {num den : ℕ}

theorem even_roundDiv_of_half (h : 0 < den)
    (hhalf : 2 * (den * roundDiv num den) = 2 * num + den ∨
      2 * num = 2 * (den * roundDiv num den) + den) : Even (roundDiv num den) := by
  have hq := Nat.div_add_mod num den
  have hr := Nat.mod_lt num h
  unfold roundDiv at hhalf ⊢
  dsimp only at hhalf ⊢
  split
  · next hlt =>
    rw [if_pos hlt] at hhalf
    omega
  · next hle =>
    rw [if_neg hle] at hhalf
    split
    · next hgt =>
      rw [if_pos hgt, Nat.mul_add, Nat.mul_one] at hhalf
      omega
    · rw [Nat.even_iff]
      omega

theorem halfEven_roundDiv (h : 0 < den) : HalfEven ((num : ℚ) / den) (roundDiv num den) := by
  have hden : (0 : ℚ) < den := Nat.cast_pos.2 h
  have hdist : |(roundDiv num den : ℚ) - num / den| =
      |2 * (den * roundDiv num den : ℚ) - 2 * num| / (2 * den) := by
    rw [← abs_of_pos (mul_pos two_pos hden), ← abs_div]
    congr 1
    field_simp
  obtain ⟨hle, hge⟩ := @roundDiv_within_half num den h
  have hle' : 2 * (den * roundDiv num den : ℚ) ≤ 2 * num + den := by exact_mod_cast hle
  have hge' : 2 * (num : ℚ) ≤ 2 * (den * roundDiv num den) + den := by exact_mod_cast hge
  refine ⟨?_, fun heq => even_roundDiv_of_half h ?_⟩
  · rw [hdist, div_le_iff₀ (by linarith), abs_le]
    constructor <;> linarith
  · rw [hdist, div_eq_iff (by linarith)] at heq
    rcases (abs_eq (by linarith)).1 heq with hpos | hneg
    · left
      have : 2 * (den * roundDiv num den : ℚ) = 2 * num + den := by linarith
      exact_mod_cast this
    · right
      have : 2 * (num : ℚ) = 2 * (den * roundDiv num den) + den := by linarith
      exact_mod_cast this

theorem zpow_le_div_iff (h : 0 < den) (e : ℤ) :
    (2 : ℚ) ^ e ≤ num / den ↔ den * powerNum 2 e ≤ num * powerDen 2 e := by
  have hden : (0 : ℚ) < den := Nat.cast_pos.2 h
  have hpow : (0 : ℚ) < powerDen 2 e := Nat.cast_pos.2 (powerDen_pos two_pos e)
  have hcast : (2 : ℚ) = (2 : ℕ) := rfl
  rw [hcast, ← powerNum_div_powerDen two_ne_zero, div_le_div_iff₀ hpow hden, mul_comm]
  exact_mod_cast Iff.rfl

theorem log2Quotient_spec (hnum : 0 < num) (hden : 0 < den) :
    (2 : ℚ) ^ log2Quotient num den ≤ num / den ∧
      (num : ℚ) / den < 2 ^ (log2Quotient num den + 1) := by
  have hn : (2 : ℚ) ^ (num.log2 : ℤ) ≤ num := by
    exact_mod_cast Nat.log2_self_le hnum.ne'
  have hn' : (num : ℚ) < 2 ^ (num.log2 + 1 : ℤ) := by
    exact_mod_cast Nat.lt_log2_self (n := num)
  have hd : (2 : ℚ) ^ (den.log2 : ℤ) ≤ den := by
    exact_mod_cast Nat.log2_self_le hden.ne'
  have hd' : (den : ℚ) < 2 ^ (den.log2 + 1 : ℤ) := by
    exact_mod_cast Nat.lt_log2_self (n := den)
  have hpos : (0 : ℚ) < den := Nat.cast_pos.2 hden
  unfold log2Quotient
  dsimp only
  split
  · next h =>
    refine ⟨(zpow_le_div_iff hden _).2 h, ?_⟩
    rw [div_lt_iff₀ hpos]
    calc (num : ℚ) < 2 ^ (num.log2 + 1 : ℤ) := hn'
      _ = 2 ^ ((num.log2 - den.log2 + 1 : ℤ)) * 2 ^ (den.log2 : ℤ) := by
        rw [← zpow_add₀ two_ne_zero]
        congr 1
        omega
      _ ≤ _ := mul_le_mul_of_nonneg_left hd (zpow_pos two_pos _).le
  · next h =>
    refine ⟨?_, by simpa using not_le.1 (mt (zpow_le_div_iff hden _).1 h)⟩
    rw [le_div_iff₀ hpos]
    calc (2 : ℚ) ^ (num.log2 - den.log2 - 1 : ℤ) * den
        ≤ 2 ^ (num.log2 - den.log2 - 1 : ℤ) * 2 ^ (den.log2 + 1 : ℤ) :=
          mul_le_mul_of_nonneg_left hd'.le (zpow_pos two_pos _).le
      _ = 2 ^ (num.log2 : ℤ) := by
        rw [← zpow_add₀ two_ne_zero]
        congr 1
        omega
      _ ≤ num := hn

/-- From the unit on, quotients have 53 digits before the point. At the least unit they may have
fewer. -/
theorem unitExponent_spec (hnum : 0 < num) (hden : 0 < den) :
    (leastExponent < unitExponent num den →
        (2 : ℚ) ^ 52 * 2 ^ unitExponent num den ≤ num / den) ∧
      (num : ℚ) / den < 2 ^ 53 * 2 ^ unitExponent num den := by
  obtain ⟨hle, hlt⟩ := log2Quotient_spec hnum hden
  have hmax := max_choice (log2Quotient num den - 52) leastExponent
  have hge : log2Quotient num den - 52 ≤ unitExponent num den := le_max_left _ _
  rw [← unitExponent] at hmax
  constructor
  · intro hleast
    rw [hmax.resolve_right hleast.ne', ← zpow_natCast, ← zpow_add₀ two_ne_zero]
    simpa using hle
  · refine hlt.trans_le ?_
    rw [← zpow_natCast, ← zpow_add₀ two_ne_zero]
    exact zpow_le_zpow_right₀ one_le_two (by push_cast; omega)

end Number

namespace Dyadic

def overflow : ℚ :=
  (2 ^ 53 - 1 / 2) * 2 ^ (971 : ℤ)

theorem one_lt_overflow : 1 < overflow :=
  one_lt_mul_of_lt_of_le (by norm_num) (one_le_zpow₀ one_le_two (by decide))

theorem abs_mul_zpow_sub (k q : ℚ) (e : ℤ) :
    |k * 2 ^ e - q| = |k - q / 2 ^ e| * 2 ^ e := by
  have hpos : (0 : ℚ) < 2 ^ e := zpow_pos two_pos e
  rw [← abs_of_pos hpos, ← abs_mul, abs_of_pos hpos, sub_mul, div_mul_cancel₀ _ hpos.ne']

/-- Rounding to units leaves no nearer value, since all that fit are whole units or too small. -/
theorem near_of_halfEven {q : ℚ} {e : ℤ} {m : ℕ} (h : HalfEven (q / 2 ^ e) m)
    (hq : -1074 < e → 2 ^ 52 * 2 ^ e ≤ q) {y : Dyadic} (hy : y.Fits) :
    |m * 2 ^ e - q| ≤ |y.magnitude - q| ∧
      (y.magnitude ≠ m * 2 ^ e → |y.magnitude - q| = |m * 2 ^ e - q| → Even m) := by
  have hpos : (0 : ℚ) < 2 ^ e := zpow_pos two_pos e
  rcases le_or_gt e y.exponent with hle | hlt
  · obtain ⟨k, hk, -⟩ := exists_mul_zpow y.mantissa hle
    rw [magnitude, hk, abs_mul_zpow_sub, abs_mul_zpow_sub]
    refine ⟨mul_le_mul_of_nonneg_right (h.le k) hpos.le, fun hne heq => ?_⟩
    refine h.even_of_eq (fun hkm => hne (by rw [hkm])) (mul_right_cancel₀ hpos.ne' heq)
  · have hbound := hy.magnitude_lt hlt
    have hge := hq (hy.le_exponent.trans_lt hlt)
    have hnear : |m * 2 ^ e - q| ≤ |2 ^ 52 * 2 ^ e - q| := by
      rw [abs_mul_zpow_sub, abs_mul_zpow_sub]
      exact mul_le_mul_of_nonneg_right (by exact_mod_cast h.le (2 ^ 52)) hpos.le
    have hfar : |2 ^ 52 * 2 ^ e - q| < |y.magnitude - q| := by
      rw [abs_of_nonpos (by linarith), abs_of_nonpos (by linarith)]
      linarith
    exact ⟨(hnear.trans_lt hfar).le, fun _ heq => absurd heq (hnear.trans_lt hfar).ne'⟩

def carry (negative : Bool) (m : ℕ) (e : ℤ) : Dyadic :=
  if m = Number.mantissaBound then ⟨negative, m / 2, e + 1⟩ else ⟨negative, m, e⟩

theorem carry_negative (negative : Bool) (m : ℕ) (e : ℤ) :
    (carry negative m e).negative = negative := by
  unfold carry
  split <;> rfl

theorem carry_magnitude (negative : Bool) (m : ℕ) (e : ℤ) :
    (carry negative m e).magnitude = m * 2 ^ e := by
  unfold carry
  split
  · next h =>
    have hhalf : (Number.mantissaBound : ℚ) = (Number.mantissaBound / 2 : ℕ) * 2 := by
      exact_mod_cast (by decide : Number.mantissaBound = Number.mantissaBound / 2 * 2)
    rw [h, magnitude, zpow_add_one₀ two_ne_zero, hhalf]
    ring
  · rfl

theorem carry_exponent_gt_iff (negative : Bool) (m : ℕ) (e : ℤ) :
    971 < (carry negative m e).exponent ↔ 971 < e ∨ e = 971 ∧ m = Number.mantissaBound := by
  unfold carry
  split
  · next h =>
    simp only [h, and_true]
    omega
  · next h => simp [h]

variable {q : ℚ} {e : ℤ} {m : ℕ}

theorem div_zpow_le (hq : q < 2 ^ 53 * 2 ^ e) : q / 2 ^ e ≤ (2 ^ 53 : ℕ) := by
  rw [div_le_iff₀ (zpow_pos two_pos e)]
  exact_mod_cast hq.le

theorem le_div_zpow (hq : 2 ^ 52 * 2 ^ e ≤ q) : ((2 ^ 52 : ℕ) : ℚ) ≤ q / 2 ^ e := by
  rw [le_div_iff₀ (zpow_pos two_pos e)]
  exact_mod_cast hq

theorem carry_nearest {negative : Bool} (h : HalfEven (q / 2 ^ e) m) (he : -1074 ≤ e)
    (hge : -1074 < e → 2 ^ 52 * 2 ^ e ≤ q) (hlt : q < 2 ^ 53 * 2 ^ e)
    (hfits : (carry negative m e).exponent ≤ 971) : (carry negative m e).Nearest q := by
  have hmag := carry_magnitude negative m e
  have hle : m ≤ 2 ^ 53 := h.le_of_le (div_zpow_le hlt)
  have hfull : -1074 < e → 2 ^ 52 ≤ m := fun hleast => h.ge_of_ge (le_div_zpow (hge hleast))
  have hbound : Number.mantissaBound = 2 ^ 53 := rfl
  refine ⟨⟨?_, ?_, hfits⟩, ?_, fun y hy => ?_, fun y hy hne heq => ?_⟩
  · unfold carry
    split
    · exact (by omega : m / 2 < 2 ^ 53)
    · exact (by omega : m < 2 ^ 53)
  · unfold carry
    split
    · exact he.trans (lt_add_one e).le
    · exact he
  · unfold carry
    split
    · exact fun (hsmall : m / 2 < 2 ^ 52) => absurd hsmall (by omega)
    · exact fun hsmall => .inr (he.antisymm' (not_lt.1 fun hleast =>
        absurd (hfull hleast) (not_le.2 hsmall)))
  · rw [hmag]
    exact (near_of_halfEven h hge hy).1
  · rw [hmag] at hne heq
    have heven := (near_of_halfEven h hge hy).2 hne heq
    unfold carry
    split
    · next h => exact ⟨2 ^ 51, by rw [h]; rfl⟩
    · exact heven

theorem overflow_le_iff (h : HalfEven (q / 2 ^ e) m)
    (hge : -1074 < e → 2 ^ 52 * 2 ^ e ≤ q) (hlt : q < 2 ^ 53 * 2 ^ e) :
    overflow ≤ q ↔ 971 < e ∨ e = 971 ∧ m = Number.mantissaBound := by
  have hpos : (0 : ℚ) < 2 ^ (971 : ℤ) := zpow_pos two_pos _
  rcases lt_trichotomy e 971 with hsmall | rfl | hlarge
  · have hpow : (2 : ℚ) ^ (e + 1) ≤ 2 ^ (971 : ℤ) := zpow_le_zpow_right₀ one_le_two hsmall
    rw [zpow_add_one₀ two_ne_zero] at hpow
    have hfar : q < overflow := by
      rw [overflow]
      generalize (2 : ℚ) ^ (971 : ℤ) = unit at hpow hpos ⊢
      linarith
    simp only [not_le.2 hfar, false_iff]
    omega
  · have hle : m ≤ 2 ^ 53 := h.le_of_le (div_zpow_le hlt)
    have hodd := h.le_iff_of_odd (k := 2 ^ 53 - 1) (by decide)
    have hhalf : overflow ≤ q ↔ ¬q / 2 ^ (971 : ℤ) < (2 ^ 53 - 1 : ℕ) + 1 / 2 := by
      rw [not_lt, le_div_iff₀ hpos, overflow]
      norm_num
    rw [hhalf, ← hodd]
    have hbound : Number.mantissaBound = 2 ^ 53 := rfl
    omega
  · have hpow : (2 : ℚ) ^ (971 + 1 : ℤ) ≤ 2 ^ e := zpow_le_zpow_right₀ one_le_two hlarge
    rw [zpow_add_one₀ two_ne_zero] at hpow
    have hfar : overflow ≤ q := by
      have hq := hge (by omega)
      rw [overflow]
      generalize (2 : ℚ) ^ (971 : ℤ) = unit at hpow hpos ⊢
      linarith
    simp [hfar, hlarge]

end Dyadic

namespace Number

variable {num den : ℕ}

theorem nearest_eq (negative : Bool) (hnum : num ≠ 0) :
    nearest negative num den =
      let e := unitExponent num den
      let x := Dyadic.carry negative (roundDiv (num * powerDen 2 e) (den * powerNum 2 e)) e
      if 971 < x.exponent then .infinite negative else .finite x :=
  if_neg hnum

theorem halfEven_units (hden : 0 < den) (e : ℤ) :
    HalfEven ((num : ℚ) / den / 2 ^ e)
      (roundDiv (num * powerDen 2 e) (den * powerNum 2 e)) := by
  have hpos : 0 < den * powerNum 2 e := Nat.mul_pos hden (Nat.pow_pos two_pos)
  have hcast : (2 : ℚ) = (2 : ℕ) := rfl
  have h := @halfEven_roundDiv (num * powerDen 2 e) _ hpos
  rwa [Nat.cast_mul, Nat.cast_mul, ← div_div_div_eq, powerNum_div_powerDen two_ne_zero] at h

/-- What a quotient of the size `q` becomes. -/
inductive Rounds (negative : Bool) (q : ℚ) : Number → Prop
  | finite {x : Dyadic} : q < Dyadic.overflow → x.negative = negative → x.Nearest q →
      Rounds negative q (.finite x)
  | infinite : Dyadic.overflow ≤ q → Rounds negative q (.infinite negative)

theorem rounds_zero (negative : Bool) {q : ℚ} (hq : 0 ≤ q) (hlt : q < 2 ^ (-1075 : ℤ)) :
    Rounds negative q (.finite ⟨negative, 0, 0⟩) := by
  have hone : (2 : ℚ) ^ (-1075 : ℤ) ≤ 1 := zpow_le_one_of_nonpos₀ one_le_two (by decide)
  exact .finite (hlt.trans (hone.trans_lt Dyadic.one_lt_overflow)) rfl
    (Dyadic.zero_nearest negative hq hlt)

theorem rounds_nearest (negative : Bool) (hden : 0 < den) :
    Rounds negative (num / den) (nearest negative num den) := by
  rcases Nat.eq_zero_or_pos num with rfl | hnum
  · rw [Nat.cast_zero, zero_div]
    exact rounds_zero negative le_rfl (zpow_pos two_pos _)
  · have hround := @halfEven_units num den hden (unitExponent num den)
    obtain ⟨hge, hlt⟩ := unitExponent_spec hnum hden
    have hover := Dyadic.overflow_le_iff hround hge hlt
    rw [← Dyadic.carry_exponent_gt_iff negative] at hover
    rw [nearest_eq negative hnum.ne']
    dsimp only
    split
    · next h => exact .infinite (hover.2 h)
    · next h =>
      exact .finite (not_le.1 (mt hover.1 h)) (Dyadic.carry_negative _ _ _)
        (Dyadic.carry_nearest hround (le_max_right _ _) hge hlt (not_lt.1 h))

theorem Rounds.value_eq {negative : Bool} {q : ℚ} {x y : Dyadic}
    (hx : Rounds negative q (.finite x)) (hy : Rounds negative q (.finite y)) :
    y.value = x.value ∧ (x.value ≠ 0 → y = x) := by
  cases hx with
  | finite _ hxsign hx =>
    cases hy with
    | finite _ hysign hy =>
      have hsign : y.negative = x.negative := hysign.trans hxsign.symm
      refine ⟨?_, fun h0 => (hx.eq hy hsign.symm fun hzero => h0 ?_).symm⟩
      · rw [Dyadic.value, Dyadic.value, hsign, hx.magnitude_eq hy]
      · rw [Dyadic.value, hzero, neg_zero, ite_self]

end Number

end QueryBridge
