import RecordQuery.Binary64.Decimal

/-!
# Reading binary64 numbers

A sign, digits with at most one point, and an exponent; or the name of an infinity or of NaN.
-/

namespace RecordQuery

def digits? (s : List Char) : Option Nat :=
  if s.isEmpty || s.any (fun c => !c.isDigit) then none
  else some (s.foldl (fun n c => 10 * n + (c.toNat - '0'.toNat)) 0)

def splitSign : List Char → Bool × List Char
  | '-' :: rest => (true, rest)
  | '+' :: rest => (false, rest)
  | rest => (false, rest)

/-- The text before the first character that satisfies `p`, and the text after it. -/
def splitAtFirst (p : Char → Bool) (s : List Char) : List Char × List Char :=
  (s.takeWhile fun c => !p c, (s.dropWhile fun c => !p c).drop 1)

namespace Decimal

/-- Reads an unsigned decimal. -/
def parse? (s : List Char) : Option Decimal := do
  let (mantissa, power) := splitAtFirst (fun c => c == 'e' || c == 'E') s
  let (whole, fraction) := splitAtFirst (· == '.') mantissa
  let digits ← digits? (whole ++ fraction)
  let (down, power) := splitSign power
  let e ← if s.any (fun c => c == 'e' || c == 'E') then digits? power else some 0
  return ⟨digits, (if down then -(e : Int) else e) - fraction.length⟩

/-- A decimal of any size as a quotient of naturals. Where the exponent alone decides between zero
and infinity, a quotient that is decided likewise stands for the value. -/
def toRatio (d : Decimal) : Nat × Nat :=
  let lead := (Nat.toDigits 10 d.digits).length + d.exponent
  if d.digits == 0 || lead < -400 then (0, 1)
  else if 400 < lead then (tenTo 400, 1)
  else (d.digits * tenTo d.exponent.toNat, tenTo (-d.exponent).toNat)

end Decimal

namespace Binary64

/-- Reads a number, rounding a decimal by `round`. -/
def parseWith? (round : Bool → Nat → Nat → Binary64) (s : String) : Option Binary64 :=
  let (negative, rest) := splitSign s.toList
  if rest == "NaN".toList then some nan
  else if rest == "inf".toList then some (infinite negative)
  else (Decimal.parse? rest).map fun d => round negative d.toRatio.1 d.toRatio.2

def parse? : String → Option Binary64 := parseWith? ofRatio

def parseSingle? : String → Option Binary64 := parseWith? ofRatioSingle

end Binary64

end RecordQuery
