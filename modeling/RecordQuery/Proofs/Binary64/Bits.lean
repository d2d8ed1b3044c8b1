import RecordQuery.Proofs.Binary64.Rounding

/-!
# Bit patterns

The binary64 number that 64 bits stand for: a sign, a biased exponent and a fraction. The patterns
of NaN, of either sign and with any fraction but zero, all stand for the one NaN.
-/

namespace RecordQuery.Binary64

def exponentField (bits : BitVec 64) : Nat := bits.toNat / 2 ^ 52 % 2 ^ 11

def fractionField (bits : BitVec 64) : Nat := bits.toNat % 2 ^ 52

theorem exponentField_lt (bits : BitVec 64) : exponentField bits < 2 ^ 11 :=
  Nat.mod_lt _ (Nat.two_pow_pos 11)

theorem fractionField_lt (bits : BitVec 64) : fractionField bits < 2 ^ 52 :=
  Nat.mod_lt _ (Nat.two_pow_pos 52)

/-- The bits of a finite number. Those with the least exponent lack the leading bit. -/
def significand (bits : BitVec 64) : Nat :=
  if exponentField bits = 0 then fractionField bits else 2 ^ 52 + fractionField bits

theorem significand_lt (bits : BitVec 64) : significand bits < 2 ^ 53 := by
  have hfraction := fractionField_lt bits
  unfold significand
  split_ifs <;> omega

/-- The units of a finite number. -/
def unitsOfBits (bits : BitVec 64) : Nat := significand bits <<< (exponentField bits - 1)

theorem fits_unitsOfBits {bits : BitVec 64} (h : exponentField bits ≠ 2047) :
    FitsBinary64 (unitsOfBits bits) := by
  have hexponent := exponentField_lt bits
  have hsignificand := significand_lt bits
  refine ⟨dvd_shiftLeft (by omega) _, ?_⟩
  calc unitsOfBits bits = significand bits * 2 ^ (exponentField bits - 1) := Nat.shiftLeft_eq _ _
    _ < 2 ^ 53 * 2 ^ (exponentField bits - 1) :=
        Nat.mul_lt_mul_of_pos_right hsignificand (Nat.two_pow_pos _)
    _ = 2 ^ 53 <<< (exponentField bits - 1) := (Nat.shiftLeft_eq _ _).symm
    _ ≤ unitsLimit := shiftLeft_le le_rfl (by omega)

/-- The number that a pattern stands for. -/
def ofBits (bits : BitVec 64) : Binary64 :=
  if h : exponentField bits = 2047 then
    if fractionField bits = 0 then infinite bits.msb else nan
  else finite bits.msb (unitsOfBits bits) (fits_unitsOfBits h)

/-- The pattern of a NaN, with either sign. -/
def IsNaNPattern (bits : BitVec 64) : Prop :=
  exponentField bits = 2047 ∧ fractionField bits ≠ 0

instance (bits : BitVec 64) : Decidable (IsNaNPattern bits) :=
  inferInstanceAs (Decidable (_ ∧ _))

theorem ofBits_eq_nan_iff (bits : BitVec 64) : ofBits bits = nan ↔ IsNaNPattern bits := by
  unfold ofBits IsNaNPattern
  split_ifs with hexponent hfraction <;> simp [*]

example : IsNaNPattern 0x7FF8000000000000#64 ∧ IsNaNPattern 0xFFF8000000000000#64 := by
  decide

end RecordQuery.Binary64
