/-!
# Binary64 numbers

A finite number is a sign and a count of units of 2^-1074, the least positive number. A count is
a number of the format when its significant bits fit in 53 and it lies below 2^1024; the count
carries that fact. Every operation is exact on counts and rounds once, to nearest, ties to even.
There is one NaN.
-/

namespace RecordQuery

def unitsPerOne : Nat := 1 <<< 1074

/-- The least power of two, in units, that is past the format's range. -/
def unitsLimit : Nat := 1 <<< 2098

/-- The count has at most 53 significant bits and stays within the format's range. -/
def FitsBinary64 (units : Nat) : Prop := 1 <<< (units.log2 - 52) ∣ units ∧ units < unitsLimit

inductive Binary64 where
  | nan
  | infinite (negative : Bool)
  | finite (negative : Bool) (units : Nat) (fits : FitsBinary64 units)

/-- The quotient rounded to the nearest natural number, a tie to the even neighbour. -/
def divNearestEven (num den : Nat) : Nat :=
  let q := num / den
  let r := num % den
  if 2 * r < den then q else if den < 2 * r then q + 1 else q + q % 2

/-- The quotient rounded to a natural number of at most `bits` significant bits. -/
def divToBits (bits num den : Nat) : Nat :=
  let dropped := (num / den).log2 + 1 - bits
  divNearestEven num (den <<< dropped) <<< dropped

theorem divNearestEven_le_succ (num den : Nat) : divNearestEven num den ≤ num / den + 1 := by
  simp only [divNearestEven]
  split
  · omega
  · split <;> omega

/-- At most 53 significant bits are still so many when zeros follow them. -/
theorem dvd_shiftLeft {m : Nat} (h : m ≤ 1 <<< 53) (s : Nat) :
    1 <<< ((m <<< s).log2 - 52) ∣ m <<< s := by
  simp only [Nat.shiftLeft_eq, Nat.one_mul] at h ⊢
  rcases Nat.eq_zero_or_pos m with rfl | hm
  · simp
  rcases Nat.lt_or_eq_of_le h with h | rfl
  · refine Nat.dvd_trans (Nat.pow_dvd_pow 2 ?_) (Nat.dvd_mul_left _ m)
    have hpower := Nat.two_pow_pos s
    have hpos : m * 2 ^ s ≠ 0 := Nat.mul_ne_zero (by omega) (by omega)
    have : (m * 2 ^ s).log2 < 53 + s := by
      rw [Nat.log2_lt hpos, Nat.pow_add]
      exact Nat.mul_lt_mul_of_pos_right h (Nat.two_pow_pos s)
    omega
  · rw [← Nat.pow_add, Nat.log2_two_pow]
    exact Nat.pow_dvd_pow 2 (by omega)

theorem divToBits_eq (bits num den : Nat) (hb : bits ≤ 53) :
    ∃ m s, m ≤ 1 <<< 53 ∧ divToBits bits num den = m <<< s := by
  refine ⟨_, _, ?_, rfl⟩
  refine Nat.le_trans (divNearestEven_le_succ _ _) ?_
  simp only [Nat.shiftLeft_eq, Nat.one_mul]
  rw [← Nat.div_div_eq_div_mul]
  have hlog : num / den < 2 ^ ((num / den).log2 + 1) := Nat.lt_log2_self
  have : num / den / 2 ^ ((num / den).log2 + 1 - bits) < 2 ^ bits := by
    rw [Nat.div_lt_iff_lt_mul (Nat.two_pow_pos _), ← Nat.pow_add]
    exact Nat.lt_of_lt_of_le hlog (Nat.pow_le_pow_right (by omega) (by omega))
  have := Nat.pow_le_pow_right (n := 2) (by omega) hb
  omega

namespace Binary64

/-- The number with the given magnitude, an infinity where the magnitude exceeds the format. -/
def ofUnits (negative : Bool) (units : Nat) (h : 1 <<< (units.log2 - 52) ∣ units) : Binary64 :=
  if hlt : units < unitsLimit then finite negative units ⟨h, hlt⟩ else infinite negative

/-- The binary64 number nearest to `num / den`. -/
def ofRatio (negative : Bool) (num den : Nat) : Binary64 :=
  ofUnits negative (divToBits 53 (num * unitsPerOne) den) (by
    obtain ⟨m, s, hm, h⟩ := divToBits_eq 53 (num * unitsPerOne) den (by omega)
    rw [h]; exact dvd_shiftLeft hm s)

/-- The least positive binary32 number, 2^-149, is two to this power in units. -/
def singleShift : Nat := 925

/-- A quotient of units of 2^-149, rounded to 24 significant bits and counted in units. -/
def singleUnits (num den : Nat) : Nat := divToBits 24 num den <<< singleShift

theorem dvd_singleUnits (num den : Nat) :
    1 <<< ((singleUnits num den).log2 - 52) ∣ singleUnits num den := by
  obtain ⟨m, s, hm, h⟩ := divToBits_eq 24 num den (by omega)
  rw [singleUnits, h, ← Nat.shiftLeft_add]
  exact dvd_shiftLeft hm _

/-- The binary32 number nearest to `num / den`, as a binary64 number: 24 significant bits, the
least positive number 2^-149, and 2^128 past the range. -/
def ofRatioSingle (negative : Bool) (num den : Nat) : Binary64 :=
  let count := singleUnits (num <<< 149) den
  if count < unitsPerOne <<< 128 then ofUnits negative count (dvd_singleUnits _ _)
  else infinite negative

def ofInt (n : Int) : Binary64 := ofRatio (n < 0) n.natAbs 1

/-- The place of a number in the order: its signed count of units, the infinities just past the
largest counts, and NaN past everything. The two zeros share a place. -/
def place : Binary64 → Int
  | nan => 2 * unitsLimit
  | infinite negative => if negative then -unitsLimit else unitsLimit
  | finite negative units _ => if negative then -units else units

/-- The total order on places: NaN equals NaN and exceeds every other number. -/
def compare (a b : Binary64) : Ordering := Ord.compare a.place b.place

end Binary64

end RecordQuery
