import QueryBridge.Text.Basic
import QueryBridge.Number.Rounding

/-!
Writing a number: the fewest decimal digits that read back as the same value, always in positional
notation, without a point where there is no fraction.
-/

namespace QueryBridge.Number

structure Decimal where
  coefficient : Nat
  exponent : Int

/-- The numbers that round to a given value, as quotients over one denominator: the value itself,
the two ends, and whether the ends belong. -/
structure Interval where
  value : Nat
  lower : Nat
  upper : Nat
  den : Nat
  closed : Bool

/-- Half a unit to either side, below a power of two a quarter; the ends round to an even
mantissa. -/
def Interval.of (x : Dyadic) : Interval :=
  let scale := powerNum 2 (x.exponent - 2)
  let below := if 2 * x.mantissa = mantissaBound && leastExponent < x.exponent then 1 else 2
  { value := 4 * x.mantissa * scale
    lower := (4 * x.mantissa - below) * scale
    upper := (4 * x.mantissa + 2) * scale
    den := powerDen 2 (x.exponent - 2)
    closed := x.mantissa % 2 == 0 }

namespace Interval

def holds (i : Interval) (a b : Nat) : Bool :=
  let a := a * i.den
  if i.closed then i.lower * b ≤ a && a ≤ i.upper * b else i.lower * b < a && a < i.upper * b

def places (i : Interval) : Int :=
  let t : Int := ((Nat.toDigits 10 i.value).length : Int) - (Nat.toDigits 10 i.den).length
  if i.den * powerNum 10 t ≤ i.value * powerDen 10 t then t + 1 else t

/-- The neighbour of the value on the grid of multiples of 10 ^ p that lies in the interval. Of two
the nearer is taken, and the upper one from halfway on. -/
def onGrid? (i : Interval) (p : Int) : Option Decimal :=
  let up := powerNum 10 p
  let down := powerDen 10 p
  let k := i.value * down / (i.den * up)
  let low := i.holds (k * up) down
  let high := i.holds ((k + 1) * up) down
  let nearLow := 2 * (i.value * down) < (2 * k + 1) * (i.den * up)
  if low && (nearLow || !high) then some ⟨k, p⟩
  else if high then some ⟨k + 1, p⟩
  else none

def search (i : Interval) : Nat → Int → Decimal
  | 0, p => ⟨i.value * powerDen 10 p / (i.den * powerNum 10 p), p⟩
  | n + 1, p => (i.onGrid? p).getD (search i n (p - 1))

def shortest (i : Interval) : Decimal :=
  i.search 17 (i.places - 1)

end Interval

def Decimal.text (d : Decimal) : Text :=
  let unit := powerDen 10 d.exponent
  let whole := Nat.toDigits 10 (d.coefficient * powerNum 10 d.exponent / unit)
  let digits := if d.coefficient % unit = 0 then [] else Nat.toDigits 10 (d.coefficient % unit)
  let zeros := List.replicate ((-d.exponent).toNat - digits.length) '0'
  let fraction := ((zeros ++ digits).reverse.dropWhile (· = '0')).reverse
  if fraction = [] then whole else whole ++ '.' :: fraction

def sign (negative : Bool) : Text :=
  if negative then ['-'] else []

def text : Number → Text
  | nan => "NaN".toList
  | infinite negative => sign negative ++ "inf".toList
  | finite x =>
    sign x.negative ++ if x.isZero then ['0'] else (Interval.of x).shortest.text

end QueryBridge.Number
