import RecordQuery.Proofs.Binary64.Rounding

/-!
# Rounding to nearest

A quotient is rounded to a multiple of a power of two, and no multiple of it is nearer. Numbers of
the format that are no multiples have fewer bits, so they are smaller than the largest power of two
in what is rounded; that one is a multiple, and in between. Places are rounded on both sides of zero
alike, and those of the format stay where they are.
-/

namespace RecordQuery

theorem divNearestEven_cases (num den : Nat) :
    (divNearestEven num den = num / den ∧ 2 * (num % den) ≤ den) ∨
      (divNearestEven num den = num / den + 1 ∧ den ≤ 2 * (num % den)) := by
  unfold divNearestEven
  dsimp only
  split_ifs with hlow hhigh
  · exact .inl ⟨rfl, by omega⟩
  · exact .inr ⟨rfl, by omega⟩
  · rcases Nat.mod_two_eq_zero_or_one (num / den) with heven | hodd
    · exact .inl ⟨by rw [heven, Nat.add_zero], by omega⟩
    · exact .inr ⟨by rw [hodd], by omega⟩

theorem dist_divNearestEven_le {den : Nat} (hden : 0 < den) (num m : Nat) :
    Nat.dist (divNearestEven num den * den) num ≤ Nat.dist (m * den) num := by
  have hnum := Nat.div_add_mod' num den
  have hr := Nat.mod_lt num hden
  have hsucc : (num / den + 1) * den = num / den * den + den := Nat.succ_mul _ _
  have hm : m * den ≤ num / den * den ∨ (num / den + 1) * den ≤ m * den := by
    rcases Nat.lt_or_ge (num / den) m with hlt | hge
    · exact .inr (Nat.mul_le_mul_right _ hlt)
    · exact .inl (Nat.mul_le_mul_right _ hge)
  simp only [Nat.dist]
  rcases divNearestEven_cases num den with ⟨heq, hhalf⟩ | ⟨heq, hhalf⟩
  · rw [heq]
    omega
  · rw [heq]
    omega

theorem two_mul_dist_divNearestEven_le {den : Nat} (hden : 0 < den) (num : Nat) :
    2 * Nat.dist (divNearestEven num den * den) num ≤ den := by
  have hnum := Nat.div_add_mod' num den
  have hr := Nat.mod_lt num hden
  have hsucc : (num / den + 1) * den = num / den * den + den := Nat.succ_mul _ _
  simp only [Nat.dist]
  rcases divNearestEven_cases num den with ⟨heq, hhalf⟩ | ⟨heq, hhalf⟩
  · rw [heq]
    omega
  · rw [heq]
    omega

theorem le_of_droppedBits_pos {bits num : Nat} (hbits : 0 < bits)
    (h : 0 < droppedBits bits num 1) :
    2 ^ (bits - 1) * 2 ^ droppedBits bits num 1 ≤ num := by
  unfold droppedBits at h ⊢
  rw [Nat.div_one] at h ⊢
  have hne : num ≠ 0 := by
    rintro rfl
    rw [Nat.log2_zero] at h
    omega
  rw [← Nat.pow_add, show bits - 1 + (num.log2 + 1 - bits) = num.log2 by omega]
  exact Nat.log2_self_le hne

theorem lt_of_droppedBits_lt {bits num u : Nat}
    (h : droppedBits bits u 1 < droppedBits bits num 1) :
    u < 2 ^ (bits - 1) * 2 ^ droppedBits bits num 1 := by
  unfold droppedBits at h ⊢
  rw [Nat.div_one, Nat.div_one] at h
  rw [Nat.div_one, ← Nat.pow_add]
  exact Nat.lt_log2_self.trans_le (Nat.pow_le_pow_right (by decide) (by omega))

/-- No number of so many bits is nearer than the one rounded to. -/
theorem dist_divToBits_le {bits num u : Nat} (hbits : 0 < bits)
    (hu : 2 ^ droppedBits bits u 1 ∣ u) :
    Nat.dist (divToBits bits num 1) num ≤ Nat.dist u num := by
  have hmultiple (m : Nat) : Nat.dist (divToBits bits num 1) num ≤
      Nat.dist (m * 2 ^ droppedBits bits num 1) num := by
    rw [divToBits_eq_mul, Nat.one_mul]
    exact dist_divNearestEven_le (Nat.two_pow_pos _) num m
  rcases Nat.lt_or_ge (droppedBits bits u 1) (droppedBits bits num 1) with hlt | hge
  · have hbelow := lt_of_droppedBits_lt hlt
    have habove := le_of_droppedBits_pos hbits (Nat.zero_lt_of_lt hlt)
    refine (hmultiple (2 ^ (bits - 1))).trans ?_
    unfold Nat.dist
    omega
  · obtain ⟨m, hm⟩ := (Nat.pow_dvd_pow 2 hge).trans hu
    rw [Nat.mul_comm] at hm
    rw [hm]
    exact hmultiple m

theorem mul_dist_divToBits_le {bits : Nat} (hbits : 0 < bits) (num : Nat) :
    2 ^ bits * Nat.dist (divToBits bits num 1) num ≤ num := by
  rcases Nat.eq_zero_or_pos (droppedBits bits num 1) with hzero | hpos
  · rw [divToBits_of_dvd (by rw [hzero]; exact Nat.one_dvd num), Nat.dist_self, Nat.mul_zero]
    exact Nat.zero_le num
  · have habove := le_of_droppedBits_pos hbits hpos
    have hhalf := two_mul_dist_divNearestEven_le (Nat.two_pow_pos (droppedBits bits num 1)) num
    have hsplit : 2 ^ bits = 2 ^ (bits - 1) * 2 := by
      rw [← Nat.pow_succ, Nat.succ_eq_add_one, Nat.sub_add_cancel hbits]
    rw [divToBits_eq_mul, Nat.one_mul]
    calc 2 ^ bits * _ = 2 ^ (bits - 1) * (2 * _) := by rw [hsplit, Nat.mul_assoc]
      _ ≤ 2 ^ (bits - 1) * 2 ^ droppedBits bits num 1 := Nat.mul_le_mul_left _ hhalf
      _ ≤ num := habove

theorem droppedBits_eq (units : Nat) : droppedBits 53 units 1 = units.log2 - 52 := by
  rw [droppedBits, Nat.div_one]
  omega

theorem FitsBinary64.dvd {units : Nat} (h : FitsBinary64 units) :
    2 ^ droppedBits 53 units 1 ∣ units := by
  rw [droppedBits_eq, ← Nat.one_shiftLeft]
  exact h.1

namespace Binary64

/-! ## Places -/

def roundPlace (k : Int) : Int :=
  if k < 0 then -(min (divToBits 53 k.natAbs 1) unitsLimit : Nat)
  else (min (divToBits 53 k.natAbs 1) unitsLimit : Nat)

theorem place_ofInt_eq (n : Int) : (ofInt n).place = roundPlace (n * unitsPerOne) := by
  have hpos : (0 : Int) < unitsPerOne := Int.natCast_pos.mpr unitsPerOne_pos
  have hsign : n * unitsPerOne < 0 ↔ n < 0 := by
    rw [Int.mul_neg_iff]
    omega
  rw [place_ofInt, roundPlace, Int.natAbs_mul, Int.natAbs_natCast]
  simp only [hsign]
  rfl

theorem roundPlace_mono {k l : Int} (h : k ≤ l) : roundPlace k ≤ roundPlace l := by
  have hmono {m n : Nat} (h : m ≤ n) :
      min (divToBits 53 m 1) unitsLimit ≤ min (divToBits 53 n 1) unitsLimit :=
    min_le_min_right _ (divToBits_mono (by decide) h 1)
  unfold roundPlace
  split_ifs with hk hl hl
  · have habs := hmono (show l.natAbs ≤ k.natAbs by omega)
    omega
  · omega
  · omega
  · have habs := hmono (show k.natAbs ≤ l.natAbs by omega)
    omega

theorem roundPlace_le (k : Int) : roundPlace k ≤ unitsLimit := by
  unfold roundPlace
  split_ifs <;> omega

theorem roundPlace_place {x : Binary64} (h : x ≠ nan) : roundPlace x.place = x.place := by
  have hunits {units : Nat} (hdvd : 2 ^ droppedBits 53 units 1 ∣ units) (hle : units ≤ unitsLimit)
      (negative : Bool) :
      roundPlace (if negative then -(units : Int) else units) =
        if negative then -(units : Int) else units := by
    have hround : min (divToBits 53 units 1) unitsLimit = units := by
      rw [divToBits_of_dvd hdvd, min_eq_left hle]
    unfold roundPlace
    cases negative with
    | true =>
      simp only [if_true, Int.natAbs_neg, Int.natAbs_natCast, hround]
      split_ifs <;> omega
    | false =>
      simp only [Bool.false_eq_true, if_false, Int.natAbs_natCast, hround]
      split_ifs <;> omega
  cases x with
  | nan => exact absurd rfl h
  | infinite negative =>
    refine hunits ?_ le_rfl negative
    rw [droppedBits_eq, ← Nat.one_shiftLeft, unitsLimit]
    exact dvd_shiftLeft (m := 1) (by decide) 2098
  | finite negative units fits => exact hunits fits.dvd fits.2.le negative

section

variable {k : Int} (hk : 2 * k.natAbs ≤ unitsLimit)
include hk

theorem natAbs_roundPlace_sub :
    (roundPlace k - k).natAbs = Nat.dist (divToBits 53 k.natAbs 1) k.natAbs := by
  have hnear := mul_dist_divToBits_le (show 0 < 53 by decide) k.natAbs
  have hunits : min (divToBits 53 k.natAbs 1) unitsLimit = divToBits 53 k.natAbs 1 := by
    refine min_eq_left ?_
    unfold Nat.dist at hnear
    omega
  rw [roundPlace, hunits]
  unfold Nat.dist
  split_ifs <;> omega

/-- No finite number of the format is nearer to a place than the one it is rounded to. -/
theorem natAbs_roundPlace_sub_le (negative : Bool) {units : Nat} (fits : FitsBinary64 units) :
    (roundPlace k - k).natAbs ≤ ((finite negative units fits).place - k).natAbs := by
  have hnear : Nat.dist (divToBits 53 k.natAbs 1) k.natAbs ≤ Nat.dist units k.natAbs :=
    dist_divToBits_le (by decide) fits.dvd
  rw [natAbs_roundPlace_sub hk, place]
  unfold Nat.dist at hnear ⊢
  split_ifs <;> omega

theorem mul_natAbs_roundPlace_sub_le : 2 ^ 53 * (roundPlace k - k).natAbs ≤ k.natAbs := by
  rw [natAbs_roundPlace_sub hk]
  exact mul_dist_divToBits_le (by decide) k.natAbs

end

end Binary64

end RecordQuery
