import RecordQuery.Binary64.Basic

/-!
# Decimal text of binary64 numbers

A finite number is written with the fewest digits that read back to it; of the shortest decimals
the nearest is taken, the larger one on a tie. `Decimal.ofUnits` chooses the digits,
`Binary64.positional` and `Binary64.literal` lay them out.
-/

namespace RecordQuery

def tenTo (k : Nat) : Nat := Nat.pow 10 k

/-- The number `digits * 10 ^ exponent`. -/
structure Decimal where
  digits : Nat
  exponent : Int
  deriving DecidableEq, Repr

namespace Decimal

/-- Drops zeros at the end of the digits, at most `fuel` of them. -/
def stripZeros : Nat → Decimal → Decimal
  | 0, d => d
  | fuel + 1, d =>
    if d.digits % 10 == 0 then stripZeros fuel ⟨d.digits / 10, d.exponent + 1⟩ else d

/-- The decimals that read back to a count of units lie between two bounds, given in quarters of a
unit. The bounds are halfway to the neighbours and belong to the interval when the significand is
even; below a power of two the neighbour is half as far away. -/
structure Interval where
  low : Nat
  high : Nat
  closed : Bool

def Interval.around (units : Nat) : Interval :=
  let ulp := 1 <<< (units.log2 - 52)
  let narrow := units == ulp <<< 52 && ulp != 1
  ⟨4 * units - (if narrow then ulp else 2 * ulp), 4 * units + 2 * ulp, units / ulp % 2 == 0⟩

def Interval.contains (i : Interval) (d : Decimal) : Bool :=
  let quarters := d.digits * tenTo d.exponent.toNat * (4 * unitsPerOne)
  let low := i.low * tenTo (-d.exponent).toNat
  let high := i.high * tenTo (-d.exponent).toNat
  if i.closed then low ≤ quarters && quarters ≤ high else low < quarters && quarters < high

/-- The quotient of a count of units by a power of ten, as numerator and denominator. -/
def scaled (units : Nat) (exponent : Int) : Nat × Nat :=
  (units * tenTo (-exponent).toNat, unitsPerOne * tenTo exponent.toNat)

/-- The point of the grid of multiples of `10 ^ exponent` that reads back to `units`. -/
def onGrid? (units : Nat) (exponent : Int) : Option Decimal :=
  let i := Interval.around units
  let (num, den) := scaled units exponent
  let below : Decimal := ⟨num / den, exponent⟩
  let above : Decimal := ⟨num / den + 1, exponent⟩
  if i.contains above && (!i.contains below || den ≤ 2 * (num % den)) then some above
  else if i.contains below then some below
  else none

/-- The least `k` with `units` below `10 ^ k`. -/
def magnitude (units : Nat) : Int :=
  ((Nat.toDigits 10 (units * tenTo 400 / unitsPerOne)).length : Int) - 400

/-- The shortest decimal that reads back to a positive count of units. Seventeen digits are enough;
past them stands the exact value. -/
def ofUnits (units : Nat) : Decimal :=
  let k := magnitude units
  let grids := (List.range 17).map fun n : Nat => k - 1 - n
  stripZeros 400 ((grids.findSome? (onGrid? units)).getD ⟨units * Nat.pow 5 1074, -1074⟩)

/-- The digits with `point` of them before the decimal point, and zeros where digits lack. -/
def layOut (digits : List Char) (point : Int) : List Char :=
  if point ≤ 0 then ['0', '.'] ++ List.replicate (-point).toNat '0' ++ digits
  else if digits.length ≤ point.toNat then
    digits ++ List.replicate (point.toNat - digits.length) '0'
  else digits.take point.toNat ++ ['.'] ++ digits.drop point.toNat

/-- Positional notation, without a point in a whole number. -/
def positional (d : Decimal) : List Char :=
  let digits := Nat.toDigits 10 d.digits
  layOut digits (digits.length + d.exponent)

/-- Exponent notation, one digit before the point. -/
def scientific (d : Decimal) : List Char :=
  let digits := Nat.toDigits 10 d.digits
  let e := digits.length + d.exponent - 1
  (if digits.length == 1 then digits else layOut digits 1) ++ ['e'] ++ (toString e).toList

/-- Positional from 1e-4 up to 1e16, with a point in every number, and exponent notation
elsewhere. -/
def literal (d : Decimal) : List Char :=
  let lead := (Nat.toDigits 10 d.digits).length + d.exponent - 1
  if -4 ≤ lead && lead < 16 then
    let text := positional d
    if text.contains '.' then text else text ++ ['.', '0']
  else scientific d

end Decimal

namespace Binary64

def signText (negative : Bool) : String := if negative then "-" else ""

/-- The text of a number: shortest digits, positional, whole numbers without a point. -/
def toText : Binary64 → String
  | nan => "NaN"
  | infinite negative => signText negative ++ "inf"
  | finite negative units _ =>
    signText negative ++
      if units == 0 then "0" else String.ofList (Decimal.ofUnits units).positional

/-- The text of a number for diagnosis: whole numbers keep a point, and very large and very small
numbers are in exponent notation. -/
def debugText : Binary64 → String
  | nan => "NaN"
  | infinite negative => signText negative ++ "inf"
  | finite negative units _ =>
    signText negative ++ if units == 0 then "0.0" else String.ofList (Decimal.ofUnits units).literal

end Binary64

end RecordQuery
