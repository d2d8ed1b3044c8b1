import Mathlib
import RecordQuery.Binary64.Basic

/-!
# Rounding keeps the order

Rounding to nearest never exchanges two numbers: of two integers the larger one gets a place at
least as high among the binary64 numbers. Different integers may share a place, from 2^53 on.
-/

namespace RecordQuery

theorem le_divNearestEven (num den : Nat) : num / den ≤ divNearestEven num den := by
  unfold divNearestEven
  dsimp only
  split_ifs <;> omega

theorem divNearestEven_mono {num num' : Nat} (h : num ≤ num') (den : Nat) :
    divNearestEven num den ≤ divNearestEven num' den := by
  have hq : num / den ≤ num' / den := Nat.div_le_div_right h
  rcases Nat.lt_or_eq_of_le hq with hq | hq
  · calc divNearestEven num den ≤ num / den + 1 := divNearestEven_le_succ num den
      _ ≤ num' / den := hq
      _ ≤ divNearestEven num' den := le_divNearestEven num' den
  · have hnum := Nat.div_add_mod num den
    have hnum' := Nat.div_add_mod num' den
    rw [hq] at hnum
    have hr : num % den ≤ num' % den := by omega
    unfold divNearestEven
    dsimp only
    rw [hq]
    split_ifs <;> omega

/-- How many low bits a quotient loses. -/
def droppedBits (bits num den : Nat) : Nat := (num / den).log2 + 1 - bits

theorem divToBits_eq_mul (bits num den : Nat) :
    divToBits bits num den =
      divNearestEven num (den * 2 ^ droppedBits bits num den) * 2 ^ droppedBits bits num den := by
  rw [← Nat.shiftLeft_eq, ← Nat.shiftLeft_eq]
  rfl

theorem divToBits_le (bits num den : Nat) :
    divToBits bits num den ≤ 2 ^ (bits + droppedBits bits num den) := by
  rw [divToBits_eq_mul, Nat.pow_add]
  refine Nat.mul_le_mul_right _ ((divNearestEven_le_succ _ _).trans ?_)
  have hlog : num / den < 2 ^ ((num / den).log2 + 1) := Nat.lt_log2_self
  have hbits : (num / den).log2 + 1 ≤ bits + droppedBits bits num den := by
    unfold droppedBits
    omega
  rw [← Nat.div_div_eq_div_mul, Nat.succ_le_iff, Nat.div_lt_iff_lt_mul (Nat.two_pow_pos _),
    ← Nat.pow_add]
  exact hlog.trans_le (Nat.pow_le_pow_right (by omega) hbits)

theorem le_divToBits {bits num den : Nat} (hbits : 0 < bits) (h : 0 < droppedBits bits num den) :
    2 ^ (bits + droppedBits bits num den - 1) ≤ divToBits bits num den := by
  have hlog : bits + droppedBits bits num den - 1 = (num / den).log2 := by
    unfold droppedBits at h ⊢
    omega
  have hne : num / den ≠ 0 := by
    intro hzero
    unfold droppedBits at h
    rw [hzero, Nat.log2_zero] at h
    omega
  have hself : 2 ^ (num / den).log2 ≤ num / den := Nat.log2_self_le hne
  have hsplit : 2 ^ (num / den).log2 =
      2 ^ (bits - 1) * 2 ^ droppedBits bits num den := by
    rw [← Nat.pow_add, ← hlog]
    congr 1
    omega
  rw [divToBits_eq_mul, hlog, hsplit]
  refine Nat.mul_le_mul_right _ (le_trans ?_ (le_divNearestEven _ _))
  rw [← Nat.div_div_eq_div_mul, Nat.le_div_iff_mul_le (Nat.two_pow_pos _), ← hsplit]
  exact hself

/-- A larger quotient may lose more bits, but then it is past what the smaller one rounds to. -/
theorem divToBits_mono {bits num num' : Nat} (hbits : 0 < bits) (h : num ≤ num') (den : Nat) :
    divToBits bits num den ≤ divToBits bits num' den := by
  have hdropped : droppedBits bits num den ≤ droppedBits bits num' den := by
    have hlog : (num / den).log2 ≤ (num' / den).log2 := by
      rw [Nat.log2_eq_log_two, Nat.log2_eq_log_two]
      exact Nat.log_mono_right (Nat.div_le_div_right h)
    unfold droppedBits
    omega
  rcases Nat.lt_or_eq_of_le hdropped with hlt | heq
  · calc divToBits bits num den ≤ 2 ^ (bits + droppedBits bits num den) := divToBits_le ..
      _ ≤ 2 ^ (bits + droppedBits bits num' den - 1) := Nat.pow_le_pow_right (by omega) (by omega)
      _ ≤ divToBits bits num' den := le_divToBits hbits (by omega)
  · rw [divToBits_eq_mul, divToBits_eq_mul, heq]
    exact Nat.mul_le_mul_right _ (divNearestEven_mono h _)

theorem divNearestEven_of_dvd {num den : Nat} (h : den ∣ num) :
    divNearestEven num den = num / den := by
  have hr : num % den = 0 := Nat.mod_eq_zero_of_dvd h
  unfold divNearestEven
  dsimp only
  rcases Nat.eq_zero_or_pos den with rfl | hden
  · rw [Nat.div_zero]
    split_ifs <;> omega
  · rw [hr, if_pos (by omega)]

theorem divToBits_of_dvd {bits num : Nat} (h : 2 ^ droppedBits bits num 1 ∣ num) :
    divToBits bits num 1 = num := by
  rw [divToBits_eq_mul, Nat.one_mul, divNearestEven_of_dvd h, Nat.div_mul_cancel h]

namespace Binary64

/-- The units of a whole number after rounding, or the limit if they are past it. -/
def unitsOfNat (n : Nat) : Nat := min (divToBits 53 (n * unitsPerOne) 1) unitsLimit

theorem unitsOfNat_mono {m n : Nat} (h : m ≤ n) : unitsOfNat m ≤ unitsOfNat n := by
  have hunits : m * unitsPerOne ≤ n * unitsPerOne := Nat.mul_le_mul_right _ h
  have hbits := divToBits_mono (show 0 < 53 by decide) hunits 1
  unfold unitsOfNat
  omega

theorem place_ofUnits (negative : Bool) (units : Nat) (h : 1 <<< (units.log2 - 52) ∣ units) :
    (ofUnits negative units h).place =
      if negative then -((min units unitsLimit : Nat) : Int) else (min units unitsLimit : Nat) := by
  unfold ofUnits
  by_cases hlt : units < unitsLimit
  · rw [dif_pos hlt, min_eq_left (by omega)]
    rfl
  · rw [dif_neg hlt, min_eq_right (by omega)]
    rfl

theorem place_ofInt (n : Int) :
    (ofInt n).place = if n < 0 then -(unitsOfNat n.natAbs : Int) else unitsOfNat n.natAbs := by
  unfold ofInt ofRatio
  rw [place_ofUnits]
  by_cases hneg : n < 0 <;> simp [hneg, unitsOfNat]

theorem place_ofInt_mono {m n : Int} (h : m ≤ n) : (ofInt m).place ≤ (ofInt n).place := by
  rw [place_ofInt, place_ofInt]
  by_cases hn : n < 0
  · have habs := unitsOfNat_mono (show n.natAbs ≤ m.natAbs by omega)
    rw [if_pos hn, if_pos (by omega)]
    omega
  · by_cases hm : m < 0
    · rw [if_neg hn, if_pos hm]
      omega
    · have habs := unitsOfNat_mono (show m.natAbs ≤ n.natAbs by omega)
      rw [if_neg hn, if_neg hm]
      omega

theorem unitsPerOne_pos : 0 < unitsPerOne := by
  rw [unitsPerOne, Nat.one_shiftLeft]
  exact Nat.two_pow_pos 1074

theorem mul_unitsPerOne (n : Nat) : n * unitsPerOne = n <<< 1074 := by
  rw [unitsPerOne, Nat.one_shiftLeft, Nat.shiftLeft_eq]

theorem shiftLeft_le {m i j k : Nat} (hm : m ≤ 2 ^ i) (hk : i + j ≤ k) : m <<< j ≤ 1 <<< k := by
  rw [Nat.shiftLeft_eq, Nat.one_shiftLeft]
  calc m * 2 ^ j ≤ 2 ^ i * 2 ^ j := Nat.mul_le_mul_right _ hm
    _ = 2 ^ (i + j) := (Nat.pow_add 2 i j).symm
    _ ≤ 2 ^ k := Nat.pow_le_pow_right (by decide) hk

theorem unitsOfNat_of_le {n : Nat} (h : n ≤ 2 ^ 53) : unitsOfNat n = n * unitsPerOne := by
  have hdropped : droppedBits 53 (n <<< 1074) 1 = (n <<< 1074).log2 - 52 := by
    rw [droppedBits, Nat.div_one]
    omega
  have hfits := dvd_shiftLeft (show n ≤ 1 <<< 53 by rwa [Nat.one_shiftLeft]) 1074
  rw [Nat.one_shiftLeft, ← hdropped] at hfits
  have hlimit : n <<< 1074 ≤ unitsLimit := shiftLeft_le h (by decide)
  rw [unitsOfNat, mul_unitsPerOne, divToBits_of_dvd hfits, min_eq_left hlimit]

theorem place_ofInt_of_le {n : Int} (h : n.natAbs ≤ 2 ^ 53) :
    (ofInt n).place = n * unitsPerOne := by
  rw [place_ofInt, unitsOfNat_of_le h, Int.natCast_mul]
  by_cases hneg : n < 0
  · rw [if_pos hneg, ← Int.neg_mul, show -(n.natAbs : Int) = n by omega]
  · rw [if_neg hneg, show (n.natAbs : Int) = n by omega]

theorem place_ofInt_inj {m n : Int} (hm : m.natAbs ≤ 2 ^ 53) (hn : n.natAbs ≤ 2 ^ 53)
    (h : (ofInt m).place = (ofInt n).place) : m = n := by
  have hpos : (unitsPerOne : Int) ≠ 0 := Int.natCast_ne_zero.mpr unitsPerOne_pos.ne'
  rw [place_ofInt_of_le hm, place_ofInt_of_le hn] at h
  exact Int.eq_of_mul_eq_mul_right hpos h

end Binary64

end RecordQuery
