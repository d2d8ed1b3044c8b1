/-! # Clamping to the range of 64-bit words -/

namespace RecordQuery

/-- The signed 64-bit integer nearest to `n`. -/
def clampInt64 (n : Int) : Int64 :=
  Int64.ofInt (max Int64.minValue.toInt (min n Int64.maxValue.toInt))

theorem toInt_clampInt64 (n : Int) :
    (clampInt64 n).toInt = max Int64.minValue.toInt (min n Int64.maxValue.toInt) :=
  Int64.toInt_ofInt_of_le (by rw [Int64.toInt_minValue]; omega)
    (by rw [Int64.toInt_minValue, Int64.toInt_maxValue]; omega)

/-- The product of two counts, or the largest unsigned word where no word holds it. -/
def saturatingMul (m n : Nat) : Nat := min (m * n) (UInt64.size - 1)

end RecordQuery
