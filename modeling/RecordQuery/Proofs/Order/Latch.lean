import RecordQuery.Proofs.Order.Insertion

/-!
# What a sort is told

A sort whose comparison may fail is told the truth up to the first failure, and from there on that
everything is equal. Replies can stand in one total preorder exactly if none that found an item less
is undone by a chain of replies from the greater item back to it. Truthful replies always can; the
made-up ones may undo them, even those to insertion sort.
-/

namespace RecordQuery

open Std

/-! ## Extending a preorder -/

section

variable {α : Type} [Preorder α]

/-- The items that stand with an item, in a total order of such ties. -/
noncomputable def extendedTie (i : α) : LinearExtension (Antisymmetrization α (· ≤ ·)) :=
  toLinearExtension (toAntisymmetrization (· ≤ ·) i)

/-- A total preorder that extends a preorder and keeps its ties apart. -/
noncomputable def extendedCompare (i j : α) : Ordering := compareOn extendedTie i j

theorem extendedCompare_transCmp : TransCmp (extendedCompare : α → α → Ordering) :=
  inferInstanceAs (TransCmp (compareOn extendedTie))

variable {i j : α}

theorem extendedCompare_eq (hij : i ≤ j) (hji : j ≤ i) : extendedCompare i j = .eq := by
  have htie : toAntisymmetrization (· ≤ ·) i = toAntisymmetrization (· ≤ ·) j :=
    Quotient.sound ⟨hij, hji⟩
  rw [extendedCompare, compareOn, extendedTie, extendedTie, htie]
  exact ReflCmp.compare_self

theorem extendedCompare_lt (h : i < j) : extendedCompare i j = .lt := by
  have htie : toAntisymmetrization (· ≤ ·) i < toAntisymmetrization (· ≤ ·) j := h
  have hle : extendedTie i ≤ extendedTie j := toLinearExtension.monotone htie.le
  have hne : extendedTie i ≠ extendedTie j := htie.ne
  exact compare_lt_iff_lt.mpr (hle.lt_of_ne hne)

end

/-! ## Replies -/

/-- A question and its answer. -/
structure Reply (ι : Type) where
  left : ι
  right : ι
  answer : Ordering

namespace Reply

variable {ι : Type}

/-- One total preorder gives all these replies. -/
def Feasible (history : List (Reply ι)) : Prop :=
  ∃ ord : ι → ι → Ordering, TransCmp ord ∧ ∀ r ∈ history, r.answer = ord r.left r.right

/-- A reply found the first item not to stand above the second. -/
inductive NotAbove (history : List (Reply ι)) : ι → ι → Prop
  | forth {r : Reply ι} : r ∈ history → r.answer ≠ .gt → NotAbove history r.left r.right
  | back {r : Reply ι} : r ∈ history → r.answer ≠ .lt → NotAbove history r.right r.left

/-- A chain of such replies. -/
def Chain (history : List (Reply ι)) : ι → ι → Prop :=
  Relation.ReflTransGen (NotAbove history)

/-- A reply found one item less, but a chain leads from the greater item back to it. -/
def Undone (history : List (Reply ι)) (r : Reply ι) : Prop :=
  (r.answer = .lt ∧ Chain history r.right r.left) ∨ (r.answer = .gt ∧ Chain history r.left r.right)

variable {history : List (Reply ι)}

theorem isLE_of_chain {ord : ι → ι → Ordering} (hord : TransCmp ord)
    (h : ∀ r ∈ history, r.answer = ord r.left r.right) {i j : ι} (hij : Chain history i j) :
    (ord i j).isLE := by
  induction hij with
  | refl =>
    have hself : ord i i = .eq := ReflCmp.compare_self
    rw [hself]
    rfl
  | tail _ hstep ih =>
    refine TransCmp.isLE_trans ih ?_
    cases hstep with
    | forth hr hne =>
      rw [h _ hr] at hne
      exact Ordering.isLE_iff_ne_gt.mpr hne
    | back hr hne =>
      rw [h _ hr, hord.eq_swap] at hne
      generalize ord _ _ = o at hne ⊢
      cases o <;> simp_all

/-- The items as chains order them. -/
abbrev chainPreorder (history : List (Reply ι)) : Preorder ι where
  le := Chain history
  le_refl _ := .refl
  le_trans _ _ _ := .trans

/-- Replies can stand in one total preorder exactly if none of them is undone. -/
theorem feasible_iff : Feasible history ↔ ∀ r ∈ history, ¬Undone history r := by
  constructor
  · rintro ⟨ord, hord, h⟩ r hr (⟨hlt, hchain⟩ | ⟨hgt, hchain⟩)
    · have hle := isLE_of_chain hord h hchain
      rw [hord.eq_swap, ← h r hr, hlt] at hle
      cases hle
    · have hle := isLE_of_chain hord h hchain
      rw [← h r hr, hgt] at hle
      cases hle
  · intro h
    let _ := chainPreorder history
    refine ⟨extendedCompare, extendedCompare_transCmp, fun r hr => ?_⟩
    have hforth (hne : r.answer ≠ .gt) : r.left ≤ r.right := .single (.forth hr hne)
    have hback (hne : r.answer ≠ .lt) : r.right ≤ r.left := .single (.back hr hne)
    cases hanswer : r.answer with
    | lt =>
      have hlt : r.left < r.right :=
        (hforth (by simp [hanswer])).lt_of_not_ge fun hle => h r hr (.inl ⟨hanswer, hle⟩)
      rw [extendedCompare_lt hlt]
    | eq => rw [extendedCompare_eq (hforth (by simp [hanswer])) (hback (by simp [hanswer]))]
    | gt =>
      have hlt : r.right < r.left :=
        (hback (by simp [hanswer])).lt_of_not_ge fun hle => h r hr (.inr ⟨hanswer, hle⟩)
      rw [extendedCompare_transCmp.eq_swap, extendedCompare_lt hlt]
      rfl

theorem not_feasible_of_ties {i j k : ι} (hij : ⟨i, j, .lt⟩ ∈ history)
    (hik : ⟨i, k, .eq⟩ ∈ history) (hjk : ⟨j, k, .eq⟩ ∈ history) : ¬Feasible history := by
  rw [feasible_iff]
  intro h
  have hback : NotAbove history k i := .back hik (by simp)
  have hforth : NotAbove history j k := .forth hjk (by simp)
  exact h _ hij (.inl ⟨rfl, (Relation.ReflTransGen.single hforth).tail hback⟩)

end Reply

namespace Inquiry

variable {ι β ε : Type}

/-- What a run asks, with the answers it gets. -/
def history {σ : Type} (cmp : ι → ι → StateT σ Id Ordering) : Inquiry ι β → σ → List (Reply ι)
  | done _, _ => []
  | ask i j next, st =>
    ⟨i, j, ((cmp i j).run st).1⟩ ::
      (next ((cmp i j).run st).1).history cmp ((cmp i j).run st).2

/-- Replies are true up to the first failure, and "equal" from there on. -/
inductive Told (cmp : ι → ι → Except ε Ordering) : List (Reply ι) → Option ε → Prop
  | nil : Told cmp [] none
  | answered {i j : ι} {o : Ordering} {rest : List (Reply ι)} {failure : Option ε} :
      cmp i j = .ok o → Told cmp rest failure → Told cmp (⟨i, j, o⟩ :: rest) failure
  | failed {i j : ι} {e : ε} {rest : List (Reply ι)} :
      cmp i j = .error e → (∀ r ∈ rest, r.answer = .eq) → Told cmp (⟨i, j, .eq⟩ :: rest) (some e)

variable {cmp : ι → ι → Except ε Ordering}

theorem answer_eq_of_failed (cmp : ι → ι → Except ε Ordering) (t : Inquiry ι β) (e : ε) :
    ∀ r ∈ t.history (StableSort.latched (m := Id) cmp) (some e), r.answer = .eq := by
  induction t with
  | done => exact fun r hr => absurd hr List.not_mem_nil
  | ask i j next ih =>
    rw [history, StableSort.latched_run_some]
    exact List.forall_mem_cons.mpr ⟨rfl, ih .eq⟩

theorem told_history (cmp : ι → ι → Except ε Ordering) (t : Inquiry ι β) :
    Told cmp (t.history (StableSort.latched (m := Id) cmp) none)
      ((t.run (StableSort.latched (m := Id) cmp)).run none).2 := by
  induction t with
  | done => exact .nil
  | ask i j next ih =>
    rw [history, run, StateT.run_bind]
    cases hij : cmp i j with
    | ok o =>
      rw [StableSort.latched_run_ok hij]
      exact .answered hij (ih o)
    | error e =>
      rw [StableSort.latched_run_error hij]
      change Told cmp _ ((next .eq).run (StableSort.latched (m := Id) cmp) |>.run (some e)).2
      rw [run_latched_some]
      exact .failed hij (answer_eq_of_failed cmp (next .eq) e)

theorem Told.ok_of_mem {replies : List (Reply ι)} {failure : Option ε}
    (h : Told cmp replies failure) (hnone : failure = none) :
    ∀ r ∈ replies, cmp r.left r.right = .ok r.answer := by
  induction h with
  | nil => exact fun r hr => absurd hr List.not_mem_nil
  | answered hij _ ih => exact List.forall_mem_cons.mpr ⟨hij, ih hnone⟩
  | failed => cases hnone

/-- A sort that succeeds was told what one total preorder says, if the comparison stems from one. -/
theorem feasible_of_run {t : Inquiry ι β} {b : β} {ord : ι → ι → Ordering} (hord : TransCmp ord)
    (hcmp : ∀ i j o, cmp i j = .ok o → o = ord i j)
    (h : (t.run (StableSort.latched (m := Id) cmp)).run none = (b, none)) :
    Reply.Feasible (t.history (StableSort.latched (m := Id) cmp) none) := by
  have htold := told_history cmp t
  rw [h] at htold
  exact ⟨ord, hord, fun r hr => hcmp _ _ _ (htold.ok_of_mem rfl r hr)⟩

/-- Compares three items by rank, the first two being tied, but fails on the last and the first. -/
def tornCompare (i j : Fin 3) : Except Unit Ordering :=
  if i = 2 ∧ j = 0 then .error () else .ok (compareOn ![1, 1, 0] i j)

/-- The first two items are tied and the last is less than the second; then comparing the last with
the first fails, which makes up a tie. -/
theorem insertion_told_infeasible :
    (∃ ord, TransCmp ord ∧ ∀ i j o, tornCompare i j = .ok o → o = ord i j) ∧
      ¬Reply.Feasible ((insertion 3).history (StableSort.latched (m := Id) tornCompare) none) := by
  constructor
  · refine ⟨compareOn ![1, 1, 0], inferInstance, fun i j o h => ?_⟩
    unfold tornCompare at h
    split_ifs at h
    exact (Except.ok.inj h).symm
  · have hhistory : (insertion 3).history (StableSort.latched (m := Id) tornCompare) none =
        [⟨1, 0, .eq⟩, ⟨2, 1, .lt⟩, ⟨2, 0, .eq⟩] := by
      rfl
    rw [hhistory]
    exact Reply.not_feasible_of_ties (i := 2) (j := 1) (k := 0) (by simp) (by simp) (by simp)

end Inquiry

end RecordQuery
