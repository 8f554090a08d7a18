/-!
Binary floating-point values: a signed whole multiple of a power of two, an infinity, or no number
at all. Comparisons with natural numbers are exact.
-/

namespace QueryBridge

/-- A power with an exponent of either sign is the quotient `powerNum base e / powerDen base e`. -/
def powerNum (base : Nat) (e : Int) : Nat :=
  base.pow e.toNat

def powerDen (base : Nat) (e : Int) : Nat :=
  base.pow (-e).toNat

theorem powerDen_pos {base : Nat} (h : 0 < base) (e : Int) : 0 < powerDen base e :=
  Nat.pow_pos h

/-- The value mantissa · 2 ^ exponent with a sign, which zero has too. -/
structure Dyadic where
  negative : Bool
  mantissa : Nat
  exponent : Int
  deriving DecidableEq, Repr

namespace Dyadic

def num (x : Dyadic) : Nat :=
  x.mantissa * powerNum 2 x.exponent

def den (x : Dyadic) : Nat :=
  powerDen 2 x.exponent

theorem den_pos (x : Dyadic) : 0 < x.den :=
  powerDen_pos (by decide) _

def floor (x : Dyadic) : Nat :=
  x.num / x.den

def ceil (x : Dyadic) : Nat :=
  (x.num + x.den - 1) / x.den

def isZero (x : Dyadic) : Bool :=
  x.mantissa == 0

/-- Zero is not below zero, whatever its sign. -/
def belowZero (x : Dyadic) : Bool :=
  x.negative && !x.isZero

def exceeds (x : Dyadic) (n : Nat) : Bool :=
  !x.negative && n * x.den < x.num

end Dyadic

inductive Number where
  | nan
  | infinite (negative : Bool)
  | finite (x : Dyadic)
  deriving DecidableEq, Repr

end QueryBridge
