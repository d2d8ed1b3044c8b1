import RecordQuery.Proofs.Regex.Matching
import RecordQuery.Proofs.Regex.Reading

/-!
# Flat patterns

A pattern that is read has no repetition with a maximum below its minimum. So its flat form, in
which groups are gone and a repetition of a repetition is one, matches what the pattern matches.
-/

namespace RecordQuery.Regex

/-! ## Repetitions of repetitions -/

section Steps

variable {R : Nat → Nat → Prop} {i j : Nat}

/-- At least `inner` steps. -/
def AtLeast (R : Nat → Nat → Prop) (inner : Nat) (i j : Nat) : Prop :=
  ∃ n, inner ≤ n ∧ Steps R n i j

/-- One step or none. -/
def AtMostOne (R : Nat → Nat → Prop) (i j : Nat) : Prop := i = j ∨ R i j

theorem atLeast_of_steps {inner n : Nat} (h : Steps (AtLeast R inner) n i j) :
    AtLeast R (n * inner) i j := by
  induction n generalizing i with
  | zero => exact ⟨0, by simp, h⟩
  | succ n ih =>
    obtain ⟨k, ⟨m, hm, hfirst⟩, hrest⟩ := h
    obtain ⟨m', hm', hlast⟩ := ih hrest
    exact ⟨m + m', by rw [Nat.succ_mul]; omega, Steps.append_iff.mpr ⟨k, hfirst, hlast⟩⟩

theorem steps_of_atLeast {inner n : Nat} (h : AtLeast R ((n + 1) * inner) i j) :
    Steps (AtLeast R inner) (n + 1) i j := by
  induction n generalizing i with
  | zero =>
    rw [Nat.zero_add, Nat.one_mul] at h
    exact ⟨j, h, rfl⟩
  | succ n ih =>
    obtain ⟨m, hm, hsteps⟩ := h
    rw [Nat.succ_mul] at hm
    obtain ⟨m', rfl⟩ := Nat.exists_eq_add_of_le (show inner ≤ m by omega)
    obtain ⟨k, hfirst, hrest⟩ := Steps.append_iff.mp hsteps
    exact ⟨k, ⟨inner, le_rfl, hfirst⟩, ih ⟨m', by omega, hrest⟩⟩

theorem steps_of_atMostOne {n : Nat} (h : Steps (AtMostOne R) n i j) :
    ∃ m ≤ n, Steps R m i j := by
  induction n generalizing i with
  | zero => exact ⟨0, le_rfl, h⟩
  | succ n ih =>
    obtain ⟨k, hk, hrest⟩ := h
    obtain ⟨m, hm, hsteps⟩ := ih hrest
    rcases hk with rfl | hk
    · exact ⟨m, by omega, hsteps⟩
    · exact ⟨m + 1, by omega, k, hk, hsteps⟩

theorem atMostOne_of_steps {m n : Nat} (hmn : m ≤ n) (h : Steps R m i j) :
    Steps (AtMostOne R) n i j := by
  induction n generalizing i m with
  | zero =>
    obtain rfl : m = 0 := by omega
    exact h
  | succ n ih =>
    cases m with
    | zero =>
      obtain rfl := h
      exact ⟨i, .inl rfl, ih (Nat.zero_le n) rfl⟩
    | succ m =>
      obtain ⟨k, hk, hrest⟩ := h
      exact ⟨k, .inr hk, ih (by omega) hrest⟩

/-- Between `min` and `max` steps. -/
def Repeats (R : Nat → Nat → Prop) (min : Nat) (max : Option Nat) (i j : Nat) : Prop :=
  ∃ n, min ≤ n ∧ (∀ m ∈ max, n ≤ m) ∧ Steps R n i j

theorem repeats_atLeast_iff {inner min : Nat} {max : Option Nat} (hmax : ∀ m ∈ max, min ≤ m)
    (h : max ≠ some 0 ∧ (inner ≤ 1 ∨ 1 ≤ min)) :
    Repeats (AtLeast R inner) min max i j ↔ AtLeast R (min * inner) i j := by
  constructor
  · rintro ⟨n, hn, -, hsteps⟩
    obtain ⟨m, hm, hrest⟩ := atLeast_of_steps hsteps
    exact ⟨m, (Nat.mul_le_mul_right inner hn).trans hm, hrest⟩
  · intro hleast
    cases min with
    | succ min => exact ⟨min + 1, le_rfl, hmax, steps_of_atLeast hleast⟩
    | zero =>
      obtain ⟨m, -, hsteps⟩ := hleast
      cases m with
      | zero => exact ⟨0, le_rfl, by simp, hsteps⟩
      | succ m =>
        have hinner : inner ≤ 1 := by omega
        refine ⟨1, Nat.zero_le _, fun bound hbound => ?_, j, ⟨m + 1, by omega, hsteps⟩, rfl⟩
        have hne : bound ≠ 0 := fun hzero => h.1 (by rw [← hzero]; exact hbound)
        omega

theorem repeats_atMostOne_iff {min : Nat} {max : Option Nat} (hmax : ∀ m ∈ max, min ≤ m) :
    Repeats (AtMostOne R) min max i j ↔ Repeats R 0 max i j := by
  constructor
  · rintro ⟨n, -, hn, hsteps⟩
    obtain ⟨m, hm, hrest⟩ := steps_of_atMostOne hsteps
    exact ⟨m, Nat.zero_le _, fun bound hbound => hm.trans (hn bound hbound), hrest⟩
  · rintro ⟨n, -, hn, hsteps⟩
    refine ⟨Nat.max min n, Nat.le_max_left _ _, fun bound hbound => ?_,
      atMostOne_of_steps (Nat.le_max_right _ _) hsteps⟩
    exact Nat.max_le.mpr ⟨hmax bound hbound, hn bound hbound⟩

end Steps

namespace Pattern

variable {text : List Char} {i j : Nat}

theorem matches_repetition_iff {p : Pattern} {min : Nat} {max : Option Nat} {greedy : Bool}
    (hmax : ∀ m ∈ max, min ≤ m) :
    (repetition p min max greedy).Matches text i j ↔ Repeats (p.Matches text) min max i j := by
  simp only [Matches, Repeats]
  refine exists_congr fun n => and_congr_right fun hn => and_congr_left fun _ => ?_
  refine forall₂_congr fun m hm => ?_
  have := hmax m hm
  omega

theorem matches_repeated_iff {p : Pattern} {min : Nat} {max : Option Nat} {greedy : Bool}
    (hmax : ∀ m ∈ max, min ≤ m) :
    (p.repeated min max greedy).Matches text i j ↔ Repeats (p.Matches text) min max i j := by
  unfold repeated
  split
  · next q inner greedy' =>
    have hinner : (repetition q inner none greedy').Matches text =
        AtLeast (q.Matches text) inner := by
      funext i j
      simp [Matches, AtLeast]
    split_ifs with h
    · rw [hinner, repeats_atLeast_iff hmax h]
      simp [Matches, AtLeast]
    · exact matches_repetition_iff hmax
  · next q greedy' =>
    have hinner : (repetition q 0 (some 1) greedy').Matches text = AtMostOne (q.Matches text) := by
      funext i j
      refine propext ⟨?_, ?_⟩
      · rintro ⟨n, -, hn, hsteps⟩
        have hn : n ≤ 1 ∨ n = 0 := by simpa using hn
        obtain rfl | rfl : n = 0 ∨ n = 1 := by omega
        · exact .inl hsteps
        · exact .inr (Steps.one_iff.mp hsteps)
      · rintro (rfl | h)
        · exact ⟨0, by simp, by simp, rfl⟩
        · exact ⟨1, by simp, by simp, j, h, rfl⟩
    rw [hinner, repeats_atMostOne_iff hmax]
    exact matches_repetition_iff (by simp)
  · exact matches_repetition_iff hmax

/-- Whether every repetition has a maximum that is not below its minimum. -/
def Ordered : Pattern → Prop
  | seq p q | alt p q => p.Ordered ∧ q.Ordered
  | repetition p min max _ => (∀ m ∈ max, min ≤ m) ∧ p.Ordered
  | group _ p => p.Ordered
  | _ => True

theorem matches_flatten_iff {p : Pattern} (h : p.Ordered) :
    p.flatten.Matches text i j ↔ p.Matches text i j := by
  induction p generalizing i j with
  | seq p q ihp ihq => simp only [flatten, Matches, ihp h.1, ihq h.2]
  | alt p q ihp ihq => simp only [flatten, Matches, ihp h.1, ihq h.2]
  | repetition p min max greedy ih =>
    have hsame : p.flatten.Matches text = p.Matches text := by
      funext i j
      exact propext (ih h.2)
    rw [flatten, matches_repeated_iff h.1, hsame, matches_repetition_iff h.1]
  | group captures p ih => exact ih h
  | empty => rfl
  | chars s => rfl
  | look l => rfl

end Pattern

/-! ## Patterns that are read -/

namespace Tree

/-- Whether every repetition has a maximum that is not below its minimum. -/
def Ordered : Tree → Prop
  | seq a b | alt a b => a.Ordered ∧ b.Ordered
  | repetition t min max _ => (∀ m ∈ max, min ≤ m) ∧ t.Ordered
  | group _ _ t => t.Ordered
  | _ => True

theorem Ordered.compile {t : Tree} {f f' : Flags} {p : Pattern} (h : t.Ordered)
    (hp : t.compile f = .ok (p, f')) : p.Ordered := by
  induction t generalizing f f' p with
  | empty => cases hp; trivial
  | literal c asByte =>
    simp only [Tree.compile] at hp
    split_ifs at hp
    cases hp
    trivial
  | dot =>
    obtain ⟨s, -, hp⟩ := exists_of_bind_ok hp
    cases hp
    trivial
  | perl q negated =>
    obtain ⟨s, -, hp⟩ := exists_of_bind_ok hp
    cases hp
    trivial
  | bracketed negated a =>
    obtain ⟨s, -, hp⟩ := exists_of_bind_ok hp
    cases hp
    trivial
  | assertion a => cases hp; trivial
  | repetition t min max greedy ih =>
    obtain ⟨⟨q, g⟩, hq, hp⟩ := exists_of_bind_ok hp
    cases hp
    exact ⟨h.1, ih h.2 hq⟩
  | group captures change t ih =>
    obtain ⟨⟨q, g⟩, hq, hp⟩ := exists_of_bind_ok hp
    cases hp
    have hq : q.Ordered := ih h hq
    exact hq
  | flags change => cases hp; trivial
  | seq a b iha ihb =>
    obtain ⟨⟨q, g⟩, hq, hp⟩ := exists_of_bind_ok hp
    obtain ⟨⟨q', g'⟩, hq', hp⟩ := exists_of_bind_ok hp
    cases hp
    exact ⟨iha h.1 hq, ihb h.2 hq'⟩
  | alt a b iha ihb =>
    obtain ⟨⟨q, g⟩, hq, hp⟩ := exists_of_bind_ok hp
    obtain ⟨⟨q', g'⟩, hq', hp⟩ := exists_of_bind_ok hp
    cases hp
    exact ⟨iha h.1 hq, ihb h.2 hq'⟩

end Tree

theorem parse_ordered {ignore : Bool} {s : String} {t : Tree} (h : Tree.parse ignore s = .ok t) :
    t.Ordered := by
  have hkept : Tree.Kept Tree.Ordered :=
    ⟨trivial, fun _ => trivial, fun _ _ => trivial, fun hmax ht => ⟨hmax, ht⟩, fun ht => ht,
      fun ha hb => ⟨ha, hb⟩, fun ha hb => ⟨ha, hb⟩⟩
  exact parse_keeps hkept (fun _ _ _ _ p _ _ => by cases p <;> trivial) h

end RecordQuery.Regex
