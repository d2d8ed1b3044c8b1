import RecordQuery.Proofs.Binary64.Bits
import RecordQuery.Proofs.Binary64.Nearest

/-!
# Exact values

Every number but NaN has a value, a real number or an infinity, that its pattern of bits holds
without any loss. Places are in the order of the values. A number on which an integer is rounded is
as near to the integer as any.
-/

namespace RecordQuery

namespace Binary64

noncomputable def value? : Binary64 → Option EReal
  | nan => none
  | infinite negative => some (if negative then ⊥ else ⊤)
  | finite negative units _ =>
    some (((if negative then -(units : ℝ) else units) / unitsPerOne : ℝ) : EReal)

/-- The value at a place. -/
noncomputable def ofPlace (k : Int) : EReal :=
  if k ≤ -unitsLimit then ⊥
  else if unitsLimit ≤ k then ⊤
  else ((k / unitsPerOne : ℝ) : EReal)

/-- The bounds that no place but that of NaN leaves. -/
def InRange (k : Int) : Prop := -unitsLimit ≤ k ∧ k ≤ unitsLimit

theorem unitsPerOne_pos_real : (0 : ℝ) < unitsPerOne := Nat.cast_pos.mpr unitsPerOne_pos

theorem ofPlace_lt {k l : Int} (hk : InRange k) (hl : InRange l) (h : k < l) :
    ofPlace k < ofPlace l := by
  obtain ⟨hk, -⟩ := hk
  obtain ⟨-, hl⟩ := hl
  have hreal : (k / unitsPerOne : ℝ) < l / unitsPerOne :=
    div_lt_div_of_pos_right (Int.cast_lt.mpr h) unitsPerOne_pos_real
  unfold ofPlace
  split_ifs
  · omega
  · exact bot_lt_top
  · exact EReal.bot_lt_coe _
  · omega
  · omega
  · omega
  · omega
  · exact EReal.coe_lt_top _
  · exact EReal.coe_lt_coe_iff.mpr hreal

theorem unitsLimit_pos : 0 < unitsLimit := by
  rw [unitsLimit, Nat.one_shiftLeft]
  exact Nat.two_pow_pos 2098

theorem ofPlace_mul {n : Int} (h : (n * unitsPerOne).natAbs < unitsLimit) :
    ofPlace (n * unitsPerOne) = ((n : ℝ) : EReal) := by
  rw [ofPlace, if_neg (by omega), if_neg (by omega)]
  push_cast
  rw [mul_div_cancel_right₀ _ unitsPerOne_pos_real.ne']

theorem inRange_place {x : Binary64} (h : x ≠ nan) : InRange x.place := by
  unfold InRange
  cases x with
  | nan => exact absurd rfl h
  | infinite negative =>
    simp only [place]
    split_ifs <;> omega
  | finite negative units fits =>
    have hlimit := fits.2
    simp only [place]
    split_ifs <;> omega

theorem value?_eq {x : Binary64} (h : x ≠ nan) : x.value? = some (ofPlace x.place) := by
  cases x with
  | nan => exact absurd rfl h
  | infinite negative =>
    have hpos := unitsLimit_pos
    cases negative with
    | true => simp [value?, place, ofPlace]
    | false =>
      rw [value?, place, ofPlace, if_neg Bool.false_ne_true, if_neg Bool.false_ne_true,
        if_neg (by omega), if_pos le_rfl]
  | finite negative units fits =>
    have hlimit := fits.2
    cases negative with
    | true =>
      rw [value?, place, ofPlace, if_pos rfl, if_pos rfl, if_neg (by omega), if_neg (by omega)]
      push_cast
      rfl
    | false =>
      rw [value?, place, ofPlace, if_neg Bool.false_ne_true, if_neg Bool.false_ne_true,
        if_neg (by omega), if_neg (by omega)]
      push_cast
      rfl

theorem isFinite_of_place {x : Binary64} (hlow : -unitsLimit < x.place)
    (hhigh : x.place < unitsLimit) :
    ∃ negative units, ∃ fits : FitsBinary64 units, x = finite negative units fits := by
  cases x with
  | nan =>
    simp only [place] at hhigh
    omega
  | infinite negative =>
    simp only [place] at hlow hhigh
    split_ifs at hlow hhigh <;> omega
  | finite negative units fits => exact ⟨negative, units, fits, rfl⟩

theorem ofPlace_compares {k l : Int} (hk : InRange k) (hl : InRange l) :
    (Ord.compare k l).Compares (ofPlace k) (ofPlace l) := by
  cases h : Ord.compare k l with
  | lt => exact ofPlace_lt hk hl (Int.compare_eq_lt.mp h)
  | eq => exact congrArg ofPlace (Int.compare_eq_eq.mp h)
  | gt => exact ofPlace_lt hl hk (Int.compare_eq_gt.mp h)

/-- The number is finite, as near to the integer as any number of the format, and no further from it
than the integer's 2^53rd part. -/
def Approximates (x : Binary64) (n : Int) : Prop :=
  ∃ r : ℝ, x.value? = some (r : EReal) ∧ 2 ^ 53 * |r - n| ≤ |(n : ℝ)| ∧
    ∀ (y : Binary64) (s : ℝ), y.value? = some (s : EReal) → |r - n| ≤ |s - n|

theorem value?_finite (negative : Bool) {units : Nat} (fits : FitsBinary64 units) :
    (finite negative units fits).value? =
      some ((((finite negative units fits).place / unitsPerOne : ℝ)) : EReal) := by
  cases negative <;> simp [value?, place]

/-- A pattern stands for its significand times a power of two. -/
theorem value?_ofBits {bits : BitVec 64} (h : exponentField bits ≠ 2047) :
    (ofBits bits).value? =
      some (((if bits.msb then -1 else 1) * significand bits *
        2 ^ max (exponentField bits) 1 / 2 ^ 1075 : ℝ) : EReal) := by
  have hone : (unitsPerOne : ℝ) = 2 ^ 1074 := by
    rw [unitsPerOne, Nat.one_shiftLeft, Nat.cast_pow, Nat.cast_ofNat]
  have hexponent : max (exponentField bits) 1 = exponentField bits - 1 + 1 := by omega
  have hunits : (unitsOfBits bits : ℝ) = significand bits * 2 ^ (exponentField bits - 1) := by
    rw [unitsOfBits, Nat.shiftLeft_eq, Nat.cast_mul, Nat.cast_pow, Nat.cast_ofNat]
  have hdouble (r : ℝ) : r * 2 / 2 ^ 1075 = r / 2 ^ 1074 := by
    rw [pow_succ 2 1074, mul_div_mul_right _ _ two_ne_zero]
  rw [ofBits, dif_neg h, value?, hone, hunits, hexponent, pow_succ 2 (exponentField bits - 1),
    ← mul_assoc, hdouble]
  cases bits.msb <;> simp

theorem abs_div_sub (k n : Int) :
    |(k / unitsPerOne : ℝ) - n| = ((k - n * unitsPerOne).natAbs : ℝ) / unitsPerOne := by
  have hpos := unitsPerOne_pos_real
  rw [Nat.cast_natAbs, div_sub' hpos.ne', abs_div, abs_of_pos hpos]
  push_cast
  ring_nf

theorem two_mul_natAbs_lt {n : Int} (hn : n.natAbs ≤ 2 ^ 64) :
    2 * (n * unitsPerOne).natAbs < unitsLimit := by
  have hle : (4 * n.natAbs) * unitsPerOne ≤ unitsLimit := by
    rw [mul_unitsPerOne]
    exact shiftLeft_le (i := 66) (by omega) (by decide)
  have hpos := unitsLimit_pos
  rw [Int.natAbs_mul, Int.natAbs_natCast]
  rw [Nat.mul_assoc] at hle
  omega

theorem approximates_of_place {x : Binary64} {n : Int} (hn : n.natAbs ≤ 2 ^ 64)
    (h : x.place = (ofInt n).place) : x.Approximates n := by
  have hpos := unitsPerOne_pos_real
  have hlimit := two_mul_natAbs_lt hn
  have hround := mul_natAbs_roundPlace_sub_le hlimit.le
  rw [place_ofInt_eq] at h
  obtain ⟨negative, units, fits, rfl⟩ : ∃ negative units, ∃ fits : FitsBinary64 units,
      x = finite negative units fits := by
    refine isFinite_of_place ?_ ?_ <;> omega
  refine ⟨_, value?_finite negative fits, ?_, fun y s hy => ?_⟩
  · rw [Int.natAbs_mul, Int.natAbs_natCast] at hround
    have hreal : ((2 ^ 53 * (roundPlace (n * unitsPerOne) - n * unitsPerOne).natAbs : ℕ) : ℝ) ≤
        (n.natAbs * unitsPerOne : ℕ) := Nat.cast_le.mpr hround
    rw [abs_div_sub, h, ← mul_div_assoc, div_le_iff₀ hpos, ← Int.cast_abs, ← Nat.cast_natAbs]
    simpa only [Nat.cast_mul, Nat.cast_pow, Nat.cast_ofNat] using hreal
  · cases y with
    | nan => cases hy
    | infinite negative' => cases negative' <;> simp [value?] at hy
    | finite negative' units' fits' =>
      rw [value?_finite, Option.some_inj, EReal.coe_eq_coe_iff] at hy
      rw [← hy, abs_div_sub, abs_div_sub, h]
      have hnear := natAbs_roundPlace_sub_le hlimit.le negative' fits'
      exact div_le_div_of_nonneg_right (Nat.cast_le.mpr hnear) hpos.le

end Binary64

end RecordQuery
