import QueryBridge.Number.Basic

/-!
Rounding a quotient of natural numbers to a binary64 value: the nearest one, of two equally near the
one with an even mantissa, and an infinity beyond the largest.
-/

namespace QueryBridge.Number

def precision : Nat := 53

def mantissaBound : Nat := Nat.pow 2 precision

def leastExponent : Int := -1074

def greatestExponent : Int := 971

/-- The quotient rounded to a whole number, a half to the even neighbour. -/
def roundDiv (num den : Nat) : Nat :=
  let q := num / den
  let r := num % den
  if 2 * r < den then q else if den < 2 * r then q + 1 else q + q % 2

theorem roundDiv_within_half {num den : Nat} (h : 0 < den) :
    2 * (den * roundDiv num den) ≤ 2 * num + den ∧
      2 * num ≤ 2 * (den * roundDiv num den) + den := by
  have hq := Nat.div_add_mod num den
  have hr := Nat.mod_lt num h
  simp only [roundDiv]
  split
  · omega
  · split
    · rw [Nat.mul_add, Nat.mul_one]
      omega
    · rcases Nat.mod_two_eq_zero_or_one (num / den) with he | he <;>
        rw [he, Nat.mul_add] <;> omega

def log2Quotient (num den : Nat) : Int :=
  let e : Int := num.log2 - den.log2
  if den * powerNum 2 e ≤ num * powerDen 2 e then e else e - 1

def unitExponent (num den : Nat) : Int :=
  max (log2Quotient num den - 52) leastExponent

/-- The value nearest to `num / den`. A mantissa that rounds up to the next power of two keeps its
value and moves its exponent. -/
def nearest (negative : Bool) (num den : Nat) : Number :=
  if num = 0 then .finite ⟨negative, 0, 0⟩
  else
    let e := unitExponent num den
    let m := roundDiv (num * powerDen 2 e) (den * powerNum 2 e)
    let x : Dyadic := if m = mantissaBound then ⟨negative, m / 2, e + 1⟩ else ⟨negative, m, e⟩
    if greatestExponent < x.exponent then .infinite negative else .finite x

end QueryBridge.Number
