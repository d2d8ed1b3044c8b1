import RecordQuery.Number
import RecordQuery.Proofs.Binary64.Rounding

/-!
# The order of numbers

Comparing two numbers is reflexive and antisymmetric in its two sides. It is transitive but for
one thing: a binary64 number may be equal to two different integers, which are compared exactly.
-/

namespace RecordQuery.Number

def place (a : Number) : Int := a.toBinary64.place

variable {a b c : Number}

theorem place_of_int {n : Int} (h : a.toInt? = some n) : a.place = (Binary64.ofInt n).place := by
  cases a with
  | signed k => cases h; rfl
  | unsigned k => cases h; rfl
  | float x => cases h

theorem place_mono {m n : Int} (ha : a.toInt? = some m) (hb : b.toInt? = some n) (h : m ≤ n) :
    a.place ≤ b.place := by
  rw [place_of_int ha, place_of_int hb]
  exact Binary64.place_ofInt_mono h

theorem compare_of_ints {m n : Int} (ha : a.toInt? = some m) (hb : b.toInt? = some n) :
    a.compare b = Ord.compare m n := by
  unfold compare
  rw [ha, hb]

theorem compare_of_float (h : a.toInt? = none ∨ b.toInt? = none) :
    a.compare b = Ord.compare a.place b.place := by
  unfold compare
  rcases h with h | h
  · rw [h]
    rfl
  · rw [h]
    cases a.toInt? <;> rfl

theorem compare_cases (a b : Number) :
    (∃ m n, a.toInt? = some m ∧ b.toInt? = some n) ∨ a.toInt? = none ∨ b.toInt? = none := by
  cases a.toInt? <;> cases b.toInt? <;> simp

theorem place_le (h : a.compare b ≠ .gt) : a.place ≤ b.place := by
  rcases compare_cases a b with ⟨m, n, ha, hb⟩ | hfloat
  · rw [compare_of_ints ha hb, Int.compare_ne_gt] at h
    exact place_mono ha hb h
  · rwa [compare_of_float hfloat, Int.compare_ne_gt] at h

theorem compare_self (a : Number) : a.compare a = .eq := by
  rcases compare_cases a a with ⟨m, n, ha, ha'⟩ | hfloat
  · rw [ha] at ha'
    cases ha'
    rw [compare_of_ints ha ha, Int.compare_eq_eq]
  · rw [compare_of_float hfloat, Int.compare_eq_eq]

theorem compare_swap (a b : Number) : b.compare a = (a.compare b).swap := by
  rcases compare_cases a b with ⟨m, n, ha, hb⟩ | hfloat
  · rw [compare_of_ints ha hb, compare_of_ints hb ha, Int.compare_swap]
  · rw [compare_of_float hfloat, compare_of_float hfloat.symm, Int.compare_swap]

theorem place_eq (h : a.compare b = .eq) : a.place = b.place := by
  have hle : a.compare b ≠ .gt := by
    rw [h]
    decide
  have hge : b.compare a ≠ .gt := by
    rw [compare_swap, h]
    decide
  exact Int.le_antisymm (place_le hle) (place_le hge)

/-- A binary64 number to which two different integers are equal. -/
structure Clash (a b c : Number) : Prop where
  left : a.compare b = .eq
  right : b.compare c = .eq
  middle : b.toInt? = none
  outer : ∃ m n, a.toInt? = some m ∧ c.toInt? = some n ∧ m ≠ n

theorem Clash.compare_ne_eq (h : Clash a b c) : a.compare c ≠ .eq := by
  obtain ⟨m, n, ha, hc, hne⟩ := h.outer
  rw [compare_of_ints ha hc, ne_eq, Int.compare_eq_eq]
  exact hne

theorem Clash.exists_large (h : Clash a b c) :
    ∃ n, (a.toInt? = some n ∨ c.toInt? = some n) ∧ 2 ^ 53 < n.natAbs := by
  obtain ⟨m, n, ha, hc, hne⟩ := h.outer
  have hplace := (place_eq h.left).trans (place_eq h.right)
  rw [place_of_int ha, place_of_int hc] at hplace
  by_contra hsmall
  push Not at hsmall
  exact hne (Binary64.place_ofInt_inj (hsmall m (.inl ha)) (hsmall n (.inr hc)) hplace)

/-- If a binary64 number stands between two integers in the wrong order, it clashes with them. -/
theorem clash_of_gt (hb : b.toInt? = none) (hab : a.place ≤ b.place) (hbc : b.place ≤ c.place)
    (h : a.compare c = .gt) : Clash a b c := by
  rcases compare_cases a c with ⟨m, n, ha, hc⟩ | hfloat
  · rw [compare_of_ints ha hc, Int.compare_eq_gt] at h
    -- rounding keeps the order of the integers, so all three share a place
    have hca : c.place ≤ a.place := place_mono hc ha (by omega)
    refine ⟨?_, ?_, hb, m, n, ha, hc, by omega⟩
    · rw [compare_of_float (.inr hb), Int.compare_eq_eq]
      omega
    · rw [compare_of_float (.inl hb), Int.compare_eq_eq]
      omega
  · rw [compare_of_float hfloat, Int.compare_eq_gt] at h
    omega

theorem le_trans_of_not_clash (hclash : ¬Clash a b c) (hab : a.compare b ≠ .gt)
    (hbc : b.compare c ≠ .gt) : a.compare c ≠ .gt := by
  have hab' := place_le hab
  have hbc' := place_le hbc
  intro hac
  cases hb : b.toInt? with
  | none => exact hclash (clash_of_gt hb hab' hbc' hac)
  | some k =>
    rcases compare_cases a c with ⟨m, n, ha, hc⟩ | hfloat
    · rw [compare_of_ints ha hb, Int.compare_ne_gt] at hab
      rw [compare_of_ints hb hc, Int.compare_ne_gt] at hbc
      rw [compare_of_ints ha hc, Int.compare_eq_gt] at hac
      omega
    · rw [compare_of_float hfloat, Int.compare_eq_gt] at hac
      omega

theorem eq_trans_of_not_clash (hclash : ¬Clash a b c) (hab : a.compare b = .eq)
    (hbc : b.compare c = .eq) : a.compare c = .eq := by
  rcases compare_cases a c with ⟨m, n, ha, hc⟩ | hfloat
  · cases hb : b.toInt? with
    | some k =>
      rw [compare_of_ints ha hb, Int.compare_eq_eq] at hab
      rw [compare_of_ints hb hc, Int.compare_eq_eq] at hbc
      rw [compare_of_ints ha hc, Int.compare_eq_eq]
      omega
    | none =>
      rw [compare_of_ints ha hc, Int.compare_eq_eq]
      by_contra hne
      exact hclash ⟨hab, hbc, hb, m, n, ha, hc, hne⟩
  · rw [compare_of_float hfloat, Int.compare_eq_eq, place_eq hab, place_eq hbc]

/-- Comparing numbers is a total preorder up to clashes, and integers up to 2^53 clash with
nothing. -/
theorem compare_preorder_iff (a b c : Number) :
    a.compare a = .eq ∧ b.compare a = (a.compare b).swap ∧
      ((a.compare b = .eq → b.compare c = .eq → a.compare c = .eq) ↔ ¬Clash a b c) ∧
      ((a.compare b ≠ .gt → b.compare c ≠ .gt → a.compare c ≠ .gt) ↔
        ¬(Clash a b c ∧ a.compare c = .gt)) ∧
      (Clash a b c →
        ∃ n, (a.toInt? = some n ∨ c.toInt? = some n) ∧ 2 ^ 53 < n.natAbs) := by
  refine ⟨compare_self a, compare_swap a b, ⟨?_, eq_trans_of_not_clash⟩, ⟨?_, ?_⟩,
    Clash.exists_large⟩
  · intro htrans hclash
    exact hclash.compare_ne_eq (htrans hclash.left hclash.right)
  · rintro htrans ⟨hclash, hgt⟩
    refine htrans ?_ ?_ hgt
    · rw [hclash.left]
      decide
    · rw [hclash.right]
      decide
  · intro hnot hab hbc hgt
    exact le_trans_of_not_clash (fun hclash => hnot ⟨hclash, hgt⟩) hab hbc hgt

/-- The integers 2^53 and 2^53 + 1 are both equal to the binary64 number 2^53. -/
theorem compare_not_transitive :
    let a : Number := .signed (2 ^ 53 + 1)
    let b : Number := .float (.ofInt (2 ^ 53))
    let c : Number := .signed (2 ^ 53)
    a.compare b = .eq ∧ b.compare c = .eq ∧ a.compare c = .gt := by
  decide +kernel

end RecordQuery.Number
