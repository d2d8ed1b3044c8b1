import Mathlib.Data.Nat.Bitwise
import RecordQuery.Regex.Match

/-!
# What patterns match

A pattern relates the places of a text at which a match of it starts and ends. The matcher computes
this relation, for all starts at once: the places it gives are those that the relation leads to.
-/

namespace RecordQuery.Regex

/-! ## Matches -/

def Steps (R : Nat → Nat → Prop) : Nat → Nat → Nat → Prop
  | 0, i, j => i = j
  | n + 1, i, j => ∃ k, R i k ∧ Steps R n k j

/-- The character ahead of a place. -/
def charBefore (text : List Char) : Nat → Option Char
  | 0 => none
  | i + 1 => text[i]?

/-- Whether a match can start at the place `i` and end at `j`. A repetition takes its minimum even
where its maximum is less. -/
def Pattern.Matches (text : List Char) : Pattern → Nat → Nat → Prop
  | empty, i, j => i = j
  | chars s, i, j => j = i + 1 ∧ text[i]?.any s.contains = true
  | look l, i, j => i = j ∧ i ≤ text.length ∧ l.holds (charBefore text i) text[i]? = true
  | seq p q, i, j => ∃ k, p.Matches text i k ∧ q.Matches text k j
  | alt p q, i, j => p.Matches text i j ∨ q.Matches text i j
  | repetition p min max _, i, j =>
    ∃ n, min ≤ n ∧ (∀ m ∈ max, n ≤ m ∨ n = min) ∧ Steps (p.Matches text) n i j
  | group _ p, i, j => p.Matches text i j

namespace Steps

variable {R : Nat → Nat → Prop} {m n i j k : Nat}

theorem append_iff : Steps R (m + n) i j ↔ ∃ k, Steps R m i k ∧ Steps R n k j := by
  induction m generalizing i with
  | zero => simp [Steps]
  | succ m ih =>
    rw [Nat.add_right_comm]
    simp only [Steps, ih]
    constructor
    · rintro ⟨a, ha, k, hk, hj⟩
      exact ⟨k, ⟨a, ha, hk⟩, hj⟩
    · rintro ⟨k, ⟨a, ha, hk⟩, hj⟩
      exact ⟨a, ha, k, hk, hj⟩

theorem one_iff : Steps R 1 i j ↔ R i j := by
  simp [Steps]

/-- Steps that lead nowhere can be left out. -/
theorem shorten (hR : ∀ i k, R i k → i ≤ k) (h : Steps R n i j) :
    i ≤ j ∧ ∃ m ≤ j - i, Steps R m i j := by
  induction n generalizing i with
  | zero =>
    obtain rfl := h
    exact ⟨le_rfl, 0, Nat.zero_le _, rfl⟩
  | succ n ih =>
    obtain ⟨k, hk, hsteps⟩ := h
    have hik := hR i k hk
    obtain ⟨hkj, m, hm, hshort⟩ := ih hsteps
    by_cases heq : i = k
    · subst heq
      exact ⟨hkj, m, hm, hshort⟩
    · exact ⟨hik.trans hkj, m + 1, by omega, k, hk, hshort⟩

end Steps

theorem Pattern.Matches.le {text : List Char} {p : Pattern} {i j : Nat} (h : p.Matches text i j) :
    i ≤ j ∧ (i = j ∨ j ≤ text.length) := by
  induction p generalizing i j with
  | empty => exact ⟨Nat.le_of_eq h, .inl h⟩
  | chars s =>
    obtain ⟨rfl, hc⟩ := h
    refine ⟨Nat.le_succ i, .inr ?_⟩
    by_contra hlong
    rw [List.getElem?_eq_none (by omega)] at hc
    cases hc
  | look l => exact ⟨h.1.le, .inl h.1⟩
  | seq p q ihp ihq =>
    obtain ⟨k, hp, hq⟩ := h
    have := ihp hp
    have := ihq hq
    omega
  | alt p q ihp ihq => exact h.elim ihp ihq
  | repetition p min max _ ih =>
    obtain ⟨n, -, -, hsteps⟩ := h
    clear * - ih hsteps
    induction n generalizing i with
    | zero => exact ⟨hsteps.le, .inl hsteps⟩
    | succ n ihn =>
      obtain ⟨k, hk, hsteps⟩ := hsteps
      have := ih hk
      have := ihn hsteps
      omega
  | group _ p ih => exact ih h

/-! ## Sets of places -/

theorem testBit_ofBits (bits : List Bool) (i : Nat) :
    (ofBits bits).testBit i = bits[i]?.getD false := by
  induction bits generalizing i with
  | nil => simp [ofBits]
  | cons b bits ih =>
    cases i with
    | zero => cases b <;> simp [ofBits, Nat.testBit_zero]
    | succ i =>
      have hhalf : (b.toNat + 2 * ofBits bits) / 2 = ofBits bits := by
        cases b <;> simp only [Bool.toNat_false, Bool.toNat_true] <;> omega
      rw [ofBits, Nat.testBit_succ, hhalf, ih]
      rfl

theorem testBit_charPlaces (s : CharSet) (text : List Char) (i : Nat) :
    (charPlaces s text).testBit i = text[i]?.any s.contains := by
  rw [charPlaces, testBit_ofBits, List.getElem?_map]
  cases text[i]? <;> rfl

theorem getElem?_lookBits (l : Look) (before : Option Char) (text : List Char) (i : Nat) :
    (lookBits l before text)[i]? =
      if i ≤ text.length then some (l.holds (if i = 0 then before else text[i - 1]?) text[i]?)
      else none := by
  induction text generalizing before i with
  | nil => cases i <;> simp [lookBits]
  | cons c text ih =>
    cases i with
    | zero => simp [lookBits]
    | succ i =>
      rw [lookBits, List.getElem?_cons_succ, ih]
      cases i <;> simp

theorem testBit_lookPlaces (l : Look) (text : List Char) (i : Nat) :
    (lookPlaces l text).testBit i = true ↔
      i ≤ text.length ∧ l.holds (charBefore text i) text[i]? = true := by
  rw [lookPlaces, testBit_ofBits, getElem?_lookBits]
  have hbefore : (if i = 0 then none else text[i - 1]?) = charBefore text i := by
    cases i <;> rfl
  rw [hbefore]
  split_ifs with h <;> simp [h]

/-- A function on sets of places that follows a relation from each of them. -/
def Follows (f : Nat → Nat) (R : Nat → Nat → Prop) : Prop :=
  ∀ places j, (f places).testBit j = true ↔ ∃ i, places.testBit i = true ∧ R i j

namespace Follows

variable {f : Nat → Nat} {R : Nat → Nat → Prop}

theorem iterate (h : Follows f R) (n : Nat) : Follows (iterate f n) (Steps R n) := by
  intro places j
  rw [iterate_eq_repeat]
  induction n generalizing j with
  | zero => simp [Nat.repeat, Steps]
  | succ n ih =>
    simp only [Nat.repeat, h _ j, ih, Steps.append_iff, Steps.one_iff]
    constructor
    · rintro ⟨k, ⟨i, hi, hk⟩, hj⟩
      exact ⟨i, hi, k, hk, hj⟩
    · rintro ⟨i, hi, k, hk, hj⟩
      exact ⟨k, ⟨i, hi, hk⟩, hj⟩

/-- The places left out of `fresh` have been gone on from before. -/
theorem reach (h : Follows f R) {n seen fresh : Nat}
    (hfresh : ∀ i, fresh.testBit i = true → seen.testBit i = true)
    (hdone : ∀ i k, seen.testBit i = true → fresh.testBit i = false → R i k →
      seen.testBit k = true) (j : Nat) :
    (reach f n seen fresh).testBit j = true ↔
      ∃ i, seen.testBit i = true ∧ ∃ m ≤ n, Steps R m i j := by
  induction n generalizing seen fresh with
  | zero => simp [Regex.reach, Steps]
  | succ n ih =>
    rw [Regex.reach]
    split_ifs with hzero
    · rw [beq_iff_eq] at hzero
      subst hzero
      refine ⟨fun hj => ⟨j, hj, 0, Nat.zero_le _, rfl⟩, ?_⟩
      rintro ⟨i, hi, m, -, hsteps⟩
      induction m generalizing i with
      | zero => exact hsteps ▸ hi
      | succ m ihm =>
        obtain ⟨k, hk, hsteps⟩ := hsteps
        exact ihm k (hdone i k hi (Nat.zero_testBit i) hk) hsteps
    have hnext (k : Nat) (hk : ∃ i, seen.testBit i = true ∧ R i k) :
        (seen ||| f fresh).testBit k = true := by
      obtain ⟨i, hi, hR⟩ := hk
      rw [Nat.testBit_or, Bool.or_eq_true]
      cases hf : fresh.testBit i with
      | true => exact .inr ((h fresh k).mpr ⟨i, hf, hR⟩)
      | false => exact .inl (hdone i k hi hf hR)
    have hold (i : Nat) : (f fresh ^^^ (f fresh &&& seen)).testBit i =
        ((f fresh).testBit i && !seen.testBit i) := by
      rw [Nat.testBit_xor, Nat.testBit_and]
      cases (f fresh).testBit i <;> cases seen.testBit i <;> rfl
    simp only
    rw [ih]
    · constructor
      · rintro ⟨i, hi, m, hm, hsteps⟩
        rw [Nat.testBit_or, Bool.or_eq_true] at hi
        rcases hi with hi | hi
        · exact ⟨i, hi, m, by omega, hsteps⟩
        · obtain ⟨i', hi', hR⟩ := (h fresh i).mp hi
          exact ⟨i', hfresh i' hi', m + 1, by omega, i, hR, hsteps⟩
      · rintro ⟨i, hi, m, hm, hsteps⟩
        cases m with
        | zero =>
          refine ⟨i, ?_, 0, Nat.zero_le _, hsteps⟩
          rw [Nat.testBit_or, hi, Bool.true_or]
        | succ m =>
          obtain ⟨k, hk, hsteps⟩ := hsteps
          exact ⟨k, hnext k ⟨i, hi, hk⟩, m, by omega, hsteps⟩
    · intro i hi
      rw [hold, Bool.and_eq_true] at hi
      rw [Nat.testBit_or, hi.1, Bool.or_true]
    · intro i k hi hi' hR
      rw [Nat.testBit_or] at hi
      rw [hold] at hi'
      refine hnext k ⟨i, ?_, hR⟩
      revert hi hi'
      cases seen.testBit i <;> cases (f fresh).testBit i <;> simp

theorem reach_all (h : Follows f R) (n : Nat) :
    Follows (fun places => Regex.reach f n places places) fun i j => ∃ m ≤ n, Steps R m i j :=
  fun _ j => h.reach (fun _ hi => hi) (fun _ _ hi hi' => absurd hi (by simp [hi'])) j

end Follows

/-- The matcher gives the places where a match can end that starts at one of the given places. -/
theorem Pattern.ends_follows (p : Pattern) (text : List Char) :
    Follows (p.ends text) (p.Matches text) := by
  induction p with
  | empty => intro places j; simp [ends, Matches]
  | chars s =>
    intro places j
    have hends : (chars s).ends text places = (places &&& charPlaces s text) <<< 1 := by
      rw [ends]
      split_ifs with hzero
      · rw [beq_iff_eq.mp hzero]
        simp
      · rfl
    rw [hends, Nat.testBit_shiftLeft, Nat.testBit_and, testBit_charPlaces]
    simp only [Matches, Bool.and_eq_true, decide_eq_true_eq]
    constructor
    · rintro ⟨hj, hplace, hc⟩
      exact ⟨j - 1, hplace, (Nat.sub_add_cancel hj).symm, hc⟩
    · rintro ⟨i, hplace, rfl, hc⟩
      exact ⟨Nat.le_add_left 1 i, hplace, hc⟩
  | look l =>
    intro places j
    have hends : (look l).ends text places = places &&& lookPlaces l text := by
      rw [ends]
      split_ifs with hzero
      · rw [beq_iff_eq.mp hzero, Nat.zero_and]
      · rfl
    rw [hends, Nat.testBit_and, Bool.and_eq_true, testBit_lookPlaces]
    simp only [Matches]
    constructor
    · rintro ⟨hplace, hlook⟩
      exact ⟨j, hplace, rfl, hlook⟩
    · rintro ⟨i, hplace, rfl, hlook⟩
      exact ⟨hplace, hlook⟩
  | seq p q ihp ihq =>
    intro places j
    refine (ihq _ j).trans ⟨?_, ?_⟩
    · rintro ⟨k, hk, hj⟩
      obtain ⟨i, hi, hp⟩ := (ihp places k).mp hk
      exact ⟨i, hi, k, hp, hj⟩
    · rintro ⟨i, hi, k, hp, hj⟩
      exact ⟨k, (ihp places k).mpr ⟨i, hi, hp⟩, hj⟩
  | alt p q ihp ihq =>
    intro places j
    simp only [ends, Matches, Nat.testBit_or, Bool.or_eq_true, ihp _ j, ihq _ j, and_or_left,
      exists_or]
  | repetition p min max greedy ih =>
    intro places j
    refine (ih.reach_all _ (iterate (p.ends text) min places) j).trans ⟨?_, ?_⟩
    · rintro ⟨k, hk, m, hm, hsteps⟩
      obtain ⟨i, hi, hfirst⟩ := (ih.iterate min places k).mp hk
      refine ⟨i, hi, min + m, Nat.le_add_right _ _, ?_, Steps.append_iff.mpr ⟨k, hfirst, hsteps⟩⟩
      rintro bound ⟨⟩
      simp only at hm
      omega
    · rintro ⟨i, hi, n, hmin, hmax, hsteps⟩
      obtain ⟨m, rfl⟩ := Nat.exists_eq_add_of_le hmin
      obtain ⟨k, hfirst, hrest⟩ := Steps.append_iff.mp hsteps
      refine ⟨k, (ih.iterate min places k).mpr ⟨i, hi, hfirst⟩, ?_⟩
      cases max with
      | some bound =>
        have hbound := hmax bound rfl
        exact ⟨m, by simp only; omega, hrest⟩
      | none =>
        -- a text has too few places for more steps that lead somewhere
        obtain ⟨-, m', hm', hshort⟩ := hrest.shorten fun _ _ h => h.le.1
        have hlast : (repetition p 0 none true).Matches text k j :=
          ⟨m, Nat.zero_le _, by simp, hrest⟩
        have hinside := hlast.le.2
        exact ⟨m', by simp only; omega, hshort⟩
  | group captures p ih => exact ih

theorem Pattern.occursIn_iff {p : Pattern} {text : List Char} :
    p.occursIn text = true ↔ ∃ i j, i ≤ text.length ∧ p.Matches text i j := by
  have hall (i : Nat) : (allPlaces text).testBit i = true ↔ i ≤ text.length := by
    rw [allPlaces, Nat.one_shiftLeft, Nat.testBit_two_pow_sub_one, decide_eq_true_eq,
      Nat.lt_succ_iff]
  have hsome (places : Nat) : (places != 0) = true ↔ ∃ j, places.testBit j = true := by
    rw [bne_iff_ne]
    refine ⟨Nat.exists_testBit_of_ne_zero, ?_⟩
    rintro ⟨j, hj⟩ rfl
    simp at hj
  rw [occursIn, hsome]
  simp only [p.ends_follows text _ _, hall]
  exact exists_comm

end RecordQuery.Regex
