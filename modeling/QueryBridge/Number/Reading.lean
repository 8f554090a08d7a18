import QueryBridge.Text.Basic
import QueryBridge.Number.Rounding

/-!
Reading a number: an optional sign, then `inf`, `infinity` or `nan` in any ASCII case, or a decimal
numeral, which has a digit before or after its optional point and may end in a decimal exponent.
-/

namespace QueryBridge.Number

def digitsValue (ds : Text) : Nat :=
  ds.foldl (fun n d => 10 * n + (d.toNat - '0'.toNat)) 0

def takeSign : Text → Bool × Text
  | '-' :: s => (true, s)
  | '+' :: s => (false, s)
  | s => (false, s)

/-- An unsigned numeral, digits · 10 ^ exponent; the digits are written without leading zeros. -/
structure Numeral where
  digits : Text
  exponent : Int

def readExponent : Text → Option Int
  | [] => some 0
  | c :: s =>
    let (negative, ds) := takeSign s
    if (c = 'e' || c = 'E') && ds ≠ [] && ds.all Char.isDigit then
      some (if negative then -(digitsValue ds : Int) else digitsValue ds)
    else none

def Numeral.read (s : Text) : Option Numeral :=
  let whole := s.takeWhile Char.isDigit
  let (fraction, tail) :=
    match s.dropWhile Char.isDigit with
    | '.' :: t => (t.takeWhile Char.isDigit, t.dropWhile Char.isDigit)
    | t => ([], t)
  if whole = [] && fraction = [] then none
  else
    (readExponent tail).map fun e =>
      ⟨(whole ++ fraction).dropWhile (· = '0'), e - (fraction.length : Int)⟩

/-- The value nearest to a numeral. The first digit alone settles the far ends: from 10 ^ 310 on all
round to infinity, and below 10 ^ -331 all round to zero. -/
def Numeral.value (negative : Bool) (n : Numeral) : Number :=
  let size : Int := n.digits.length + n.exponent
  if n.digits = [] then .finite ⟨negative, 0, 0⟩
  else if 310 < size then .infinite negative
  else if size < -330 then .finite ⟨negative, 0, 0⟩
  else
    nearest negative (digitsValue n.digits * powerNum 10 n.exponent) (powerDen 10 n.exponent)

def read (s : Text) : Option Number :=
  let (negative, s) := takeSign s
  let name := s.map Char.toLower
  if name = "inf".toList || name = "infinity".toList then some (.infinite negative)
  else if name = "nan".toList then some .nan
  else (Numeral.read s).map (Numeral.value negative)

end QueryBridge.Number
