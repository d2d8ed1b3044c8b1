import RecordQuery.Proofs.Binary64.Exact
import RecordQuery.Proofs.Number.Order

/-!
# Comparisons of numbers and their values

Comparing two numbers never puts them against the order of their values: rounding an integer keeps
it on its side of every binary64 number, or brings it to that number's place. The comparison can
only fail to tell an integer from a binary64 number that is as near to it as any.
-/

namespace RecordQuery.Number

open Binary64 (InRange ofPlace roundPlace)

noncomputable def value? : Number → Option EReal
  | signed n => some ((n.toInt : ℝ) : EReal)
  | unsigned n => some ((n.toNat : ℝ) : EReal)
  | float x => x.value?

/-- The place of a number before rounding. -/
def exactPlace : Number → Int
  | signed n => n.toInt * unitsPerOne
  | unsigned n => n.toNat * unitsPerOne
  | float x => x.place

variable {a b : Number} {x y : EReal}

theorem natAbs_le_of_int {n : Int} (h : a.toInt? = some n) : n.natAbs ≤ 2 ^ 64 := by
  cases a with
  | signed k =>
    cases h
    have hlow := k.le_toInt
    have hhigh := k.toInt_lt
    omega
  | unsigned k =>
    cases h
    have hlt := k.toNat_lt
    omega
  | float z => cases h

theorem exactPlace_of_int {n : Int} (h : a.toInt? = some n) : a.exactPlace = n * unitsPerOne := by
  cases a with
  | signed k => cases h; rfl
  | unsigned k => cases h; rfl
  | float z => cases h

theorem value?_of_int {n : Int} (h : a.toInt? = some n) : a.value? = some ((n : ℝ) : EReal) := by
  cases a with
  | signed k => cases h; rfl
  | unsigned k => cases h; rfl
  | float z => cases h

theorem int_or_float (a : Number) : (∃ n, a.toInt? = some n) ∨ ∃ z, a = .float z := by
  cases a with
  | signed n => exact .inl ⟨_, rfl⟩
  | unsigned n => exact .inl ⟨_, rfl⟩
  | float z => exact .inr ⟨z, rfl⟩

/-- What a number with a value has: a place that holds the value, and that is rounded. -/
structure Placed (a : Number) (x : EReal) : Prop where
  inRange : InRange a.exactPlace
  eq_ofPlace : x = ofPlace a.exactPlace
  place_eq : a.place = roundPlace a.exactPlace

theorem placed_of_value? (h : a.value? = some x) : a.Placed x := by
  rcases int_or_float a with ⟨n, hn⟩ | ⟨z, rfl⟩
  · have hlimit := Binary64.two_mul_natAbs_lt (natAbs_le_of_int hn)
    rw [value?_of_int hn, Option.some_inj] at h
    refine ⟨?_, ?_, ?_⟩
    · rw [exactPlace_of_int hn]
      constructor <;> omega
    · rw [exactPlace_of_int hn, ← h, Binary64.ofPlace_mul (by omega)]
    · rw [exactPlace_of_int hn, place_of_int hn, Binary64.place_ofInt_eq]
  · have hnan : z ≠ .nan := by
      rintro rfl
      cases h
    have hvalue := Binary64.value?_eq hnan
    exact ⟨Binary64.inRange_place hnan, Option.some_inj.mp (h.symm.trans hvalue),
      (Binary64.roundPlace_place hnan).symm⟩

theorem lt_of_compare (hx : a.Placed x) (hy : b.Placed y) (h : a.compare b = .lt) : x < y := by
  rw [hx.eq_ofPlace, hy.eq_ofPlace]
  refine Binary64.ofPlace_lt hx.inRange hy.inRange ?_
  rcases compare_cases a b with ⟨m, n, hm, hn⟩ | hfloat
  · rw [compare_of_ints hm hn, Int.compare_eq_lt] at h
    rw [exactPlace_of_int hm, exactPlace_of_int hn]
    exact Int.mul_lt_mul_of_pos_right h (Int.natCast_pos.mpr Binary64.unitsPerOne_pos)
  · rw [compare_of_float hfloat, Int.compare_eq_lt, hx.place_eq, hy.place_eq] at h
    by_contra hge
    exact absurd (Binary64.roundPlace_mono (not_lt.mp hge)) (not_le.mpr h)

theorem compare_of_same_kind (h : a.toInt?.isSome = b.toInt?.isSome) :
    a.compare b = Ord.compare a.exactPlace b.exactPlace := by
  rcases int_or_float a with ⟨m, hm⟩ | ⟨z, rfl⟩ <;>
    rcases int_or_float b with ⟨n, hn⟩ | ⟨w, rfl⟩
  · rw [compare_of_ints hm hn, exactPlace_of_int hm, exactPlace_of_int hn, ← cmp_eq_compare,
      ← cmp_eq_compare, cmp_mul_pos_right (Int.natCast_pos.mpr Binary64.unitsPerOne_pos)]
  · rw [hm] at h
    cases h
  · rw [hn] at h
    cases h
  · rfl

/-- The first number is the nearest in binary64 to the second, an integer. -/
def Approximates (a b : Number) : Prop :=
  ∃ z n, a = .float z ∧ b.toInt? = some n ∧ z.Approximates n

theorem approximates_of_compare (h : a.compare b = .eq)
    (hkind : a.toInt?.isSome ≠ b.toInt?.isSome) : a.Approximates b ∨ b.Approximates a := by
  have hplace := place_eq h
  rcases int_or_float a with ⟨m, hm⟩ | ⟨z, rfl⟩ <;>
    rcases int_or_float b with ⟨n, hn⟩ | ⟨w, rfl⟩
  · rw [hm, hn] at hkind
    exact absurd rfl hkind
  · rw [place_of_int hm] at hplace
    exact .inr ⟨w, m, rfl, hm, Binary64.approximates_of_place (natAbs_le_of_int hm) hplace.symm⟩
  · rw [place_of_int hn] at hplace
    exact .inl ⟨z, n, rfl, hn, Binary64.approximates_of_place (natAbs_le_of_int hn) hplace⟩
  · exact absurd rfl hkind

theorem value?_eq_none_iff : a.value? = none ↔ a = .float .nan := by
  cases a with
  | signed n => simp [value?]
  | unsigned n => simp [value?]
  | float z => cases z <;> simp [value?, Binary64.value?]

theorem place_lt_nan (h : a.Placed x) : a.place < Binary64.nan.place := by
  have hpos := Binary64.unitsLimit_pos
  have hle := Binary64.roundPlace_le a.exactPlace
  rw [h.place_eq, Binary64.place]
  omega

theorem compare_nan (h : a.Placed x) : a.compare (.float .nan) = .lt := by
  rw [compare_of_float (.inr rfl), Int.compare_eq_lt]
  exact place_lt_nan h

/-- Comparing two numbers that have values never contradicts their order, and what is found equal
without being so is as near as the format allows. -/
theorem compare_respects_values (a b : Number) :
    (∀ x y, a.value? = some x → b.value? = some y →
      (a.compare b = .lt → x < y) ∧ (a.compare b = .gt → y < x) ∧
        (a.compare b = .eq → x = y ∨ a.Approximates b ∨ b.Approximates a) ∧
        (a.toInt?.isSome = b.toInt?.isSome → (a.compare b).Compares x y)) ∧
      (a.value? = none →
        (b.value? = none → a.compare b = .eq) ∧
          (b.value? ≠ none → a.compare b = .gt ∧ b.compare a = .lt)) ∧
      ∀ bits, (float (.ofBits bits)).value? = none ↔ Binary64.IsNaNPattern bits := by
  refine ⟨fun x y ha hb => ?_, fun ha => ?_, fun bits => ?_⟩
  · have hx := placed_of_value? ha
    have hy := placed_of_value? hb
    have hsame (hkind : a.toInt?.isSome = b.toInt?.isSome) : (a.compare b).Compares x y := by
      rw [compare_of_same_kind hkind, hx.eq_ofPlace, hy.eq_ofPlace]
      exact Binary64.ofPlace_compares hx.inRange hy.inRange
    refine ⟨lt_of_compare hx hy, fun hgt => ?_, fun heq => ?_, hsame⟩
    · exact lt_of_compare hy hx (by rw [compare_swap, hgt]; rfl)
    · by_cases hkind : a.toInt?.isSome = b.toInt?.isSome
      · have hxy := hsame hkind
        rw [heq] at hxy
        exact .inl hxy
      · exact .inr (approximates_of_compare heq hkind)
  · obtain rfl := value?_eq_none_iff.mp ha
    refine ⟨fun hb => ?_, fun hb => ?_⟩
    · obtain rfl := value?_eq_none_iff.mp hb
      exact compare_self _
    · obtain ⟨y, hy⟩ := Option.ne_none_iff_exists'.mp hb
      have hlt := compare_nan (placed_of_value? hy)
      exact ⟨by rw [compare_swap, hlt]; rfl, hlt⟩
  · rw [value?_eq_none_iff, float.injEq, Binary64.ofBits_eq_nan_iff]

end RecordQuery.Number
