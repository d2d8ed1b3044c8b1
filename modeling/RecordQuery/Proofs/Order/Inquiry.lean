import RecordQuery.Proofs.Order.Stable

/-!
# Comparison sorts

A comparison sort is a decision tree: it asks how two positions compare, goes on by the answer, and
ends with all positions in order. Such a tree has asked enough to know its result: the result is in
order for every transitive relation that the answers establish.
-/

namespace RecordQuery

open Std

/-- A computation that asks how items compare. -/
inductive Inquiry (ι β : Type) where
  | done (result : β)
  | ask (i j : ι) (next : Ordering → Inquiry ι β)

namespace Inquiry

variable {ι β : Type}

def run {m : Type → Type} [Monad m] (cmp : ι → ι → m Ordering) : Inquiry ι β → m β
  | done result => pure result
  | ask i j next => cmp i j >>= fun o => (next o).run cmp

/-- The result that answers lead to. -/
def result (ans : ι → ι → Ordering) : Inquiry ι β → β
  | done result => result
  | ask i j next => (next (ans i j)).result ans

/-- What is asked on the way there. -/
def asked (ans : ι → ι → Ordering) : Inquiry ι β → List (ι × ι)
  | done _ => []
  | ask i j next => (i, j) :: (next (ans i j)).asked ans

theorem result_congr {ans ans' : ι → ι → Ordering} (t : Inquiry ι β)
    (h : ∀ p ∈ t.asked ans, ans p.1 p.2 = ans' p.1 p.2) : t.result ans = t.result ans' := by
  induction t with
  | done => rfl
  | ask i j next ih =>
    obtain ⟨hij, hnext⟩ := List.forall_mem_cons.mp h
    rw [result, result, ih _ hnext, hij]

/-! ## Comparisons that may fail -/

section

variable {ε : Type} {cmp : ι → ι → Except ε Ordering}

/-- What a comparison answers, with failures read as "equal". -/
def answer (cmp : ι → ι → Except ε Ordering) (i j : ι) : Ordering :=
  match cmp i j with
  | .ok o => o
  | .error _ => .eq

theorem answer_of_ok {i j : ι} {o : Ordering} (h : cmp i j = .ok o) : answer cmp i j = o := by
  rw [answer, h]

theorem run_latched_some (cmp : ι → ι → Except ε Ordering) (t : Inquiry ι β) (e : ε) :
    ((t.run (StableSort.latched (m := Id) cmp)).run (some e)).2 = some e := by
  induction t with
  | done => rfl
  | ask i j next ih =>
    rw [run, StateT.run_bind, StableSort.latched_run_some]
    exact ih .eq

theorem run_latched_of_ok {t : Inquiry ι β}
    (h : ∀ p ∈ t.asked (answer cmp), ∃ o, cmp p.1 p.2 = .ok o) :
    (t.run (StableSort.latched (m := Id) cmp)).run none = (t.result (answer cmp), none) := by
  induction t with
  | done => rfl
  | ask i j next ih =>
    obtain ⟨⟨o, ho⟩, hnext⟩ := List.forall_mem_cons.mp h
    rw [run, StateT.run_bind, StableSort.latched_run_ok ho, result]
    rw [answer_of_ok ho] at hnext ⊢
    exact ih o hnext

theorem ok_of_run_latched {t : Inquiry ι β} {b : β}
    (h : (t.run (StableSort.latched (m := Id) cmp)).run none = (b, none)) :
    ∀ p ∈ t.asked (answer cmp), ∃ o, cmp p.1 p.2 = .ok o := by
  induction t with
  | done => exact fun p hp => absurd hp List.not_mem_nil
  | ask i j next ih =>
    rw [run, StateT.run_bind] at h
    cases hij : cmp i j with
    | ok o =>
      rw [StableSort.latched_run_ok hij] at h
      rw [asked, answer_of_ok hij]
      exact List.forall_mem_cons.mpr ⟨⟨o, hij⟩, ih o h⟩
    | error e =>
      rw [StableSort.latched_run_error hij] at h
      change ((next .eq).run (StableSort.latched (m := Id) cmp)).run (some e) = (b, none) at h
      have hkept := run_latched_some cmp (next .eq) e
      rw [h] at hkept
      cases hkept

end

/-! ## Trees that sort -/

/-- A stable sort by comparisons: it asks about different positions only, and with the answers of a
total preorder it ends with the positions in order, tied ones as they stood. -/
structure SortsStably {n : Nat} (t : Inquiry (Fin n) (List (Fin n))) : Prop where
  distinct : ∀ ans, ∀ p ∈ t.asked ans, p.1 ≠ p.2
  stablySorted : ∀ ord : Fin n → Fin n → Ordering, TransCmp ord →
    StablySorted (fun i j => (ord i j).isLE) (List.finRange n) (t.result ord)

/-- The answers to some questions establish a relation if it holds towards everything that was found
no less. -/
def Establish (ans : ι → ι → Ordering) (questions : List (ι × ι)) (R : ι → ι → Prop) : Prop :=
  ∀ p ∈ questions, (ans p.1 p.2 ≠ .gt → R p.1 p.2) ∧ (ans p.1 p.2 ≠ .lt → R p.2 p.1)

/-- The result has all positions, and is in order for whatever transitive relation the answers
establish. -/
structure Derives {n : Nat} (ans : Fin n → Fin n → Ordering) (t : Inquiry (Fin n) (List (Fin n))) :
    Prop where
  perm : (t.result ans).Perm (List.finRange n)
  pairwise : ∀ R : Fin n → Fin n → Prop, (∀ i j k, R i j → R j k → R i k) →
    Establish ans (t.asked ans) R → (t.result ans).Pairwise R

open Classical in
/-- Two tiers of items: above are an item and all that it is related to. -/
noncomputable def tier (R : ι → ι → Prop) (i k : ι) : Nat := if k = i ∨ R i k then 1 else 0

theorem tier_mono {R : ι → ι → Prop} (htrans : ∀ i j k, R i j → R j k → R i k) {i k l : ι}
    (hkl : R k l) : tier R i k ≤ tier R i l := by
  unfold tier
  by_cases hk : k = i ∨ R i k
  · have hl : R i l := by
      rcases hk with rfl | hk
      · exact hkl
      · exact htrans i k l hk hkl
    rw [if_pos hk, if_pos (.inr hl)]
  · rw [if_neg hk]
    exact Nat.zero_le _

theorem compareLex_of_mono {rank : ι → Nat} {ord : ι → ι → Ordering} {i j : ι}
    (hle : ord i j ≠ .gt → rank i ≤ rank j) (hge : ord i j ≠ .lt → rank j ≤ rank i) :
    compareLex (compareOn rank) ord i j = ord i j := by
  simp only [compareLex, compareOn]
  cases ho : ord i j with
  | lt =>
    have hrank : compare (rank i) (rank j) ≠ .gt := Nat.compare_ne_gt.mpr (hle (by simp [ho]))
    cases hcmp : compare (rank i) (rank j) <;> simp_all
  | eq =>
    have hrank : rank i = rank j := Nat.le_antisymm (hle (by simp [ho])) (hge (by simp [ho]))
    rw [Nat.compare_eq_eq.mpr hrank]
    rfl
  | gt =>
    have hrank : compare (rank i) (rank j) ≠ .lt := Nat.compare_ne_lt.mpr (hge (by simp [ho]))
    cases hcmp : compare (rank i) (rank j) <;> simp_all

/-- A tree that sorts asks enough to derive its result. -/
theorem SortsStably.derives {n : Nat} {t : Inquiry (Fin n) (List (Fin n))} (h : t.SortsStably)
    {ans ord : Fin n → Fin n → Ordering} (hord : TransCmp ord)
    (hans : ∀ p ∈ t.asked ans, ans p.1 p.2 = ord p.1 p.2) : t.Derives ans := by
  have hperm := (h.stablySorted ord hord).perm
  rw [← t.result_congr hans] at hperm
  refine ⟨hperm, fun R htrans hR => ?_⟩
  have hnodup : (t.result ans).Nodup := hperm.nodup_iff.mpr (List.nodup_finRange n)
  refine List.pairwise_iff_forall_sublist.mpr fun {i j} hij => ?_
  by_contra hnot
  -- With `i` and all that it is related to above the rest the tree is given the same answers and
  -- has the same result, but `i` has to come after `j`.
  let raised := compareLex (compareOn (tier R i)) ord
  have hraised : ∀ p ∈ t.asked ans, ans p.1 p.2 = raised p.1 p.2 := by
    intro p hp
    obtain ⟨hle, hge⟩ := hR p hp
    rw [hans p hp] at hle hge ⊢
    exact (compareLex_of_mono (fun ho => tier_mono htrans (hle ho))
      fun ho => tier_mono htrans (hge ho)).symm
  have hsorted := (h.stablySorted raised inferInstance).pairwise
  rw [← t.result_congr hraised] at hsorted
  have hne : j ≠ i := by
    have hpair := hnodup.sublist hij
    rintro rfl
    simp at hpair
  have hle := List.pairwise_iff_forall_sublist.mp hsorted hij
  have hgt : raised i j = .gt := by
    simp only [raised, compareLex, compareOn, tier, hne, hnot, true_or, or_self, if_true, if_false]
    rfl
  rw [hgt] at hle
  cases hle

/-! ## Sorting a list -/

section

variable {ε α : Type} {items : List α} {cmp : α → α → Except ε Ordering}
  {t : Inquiry (Fin items.length) (List (Fin items.length))}

/-- Compares the items at two positions. -/
def comparePositions (items : List α) (cmp : α → α → Except ε Ordering)
    (i j : Fin items.length) : Except ε Ordering :=
  cmp (items.get i) (items.get j)

/-- Sorts a list by a tree over its positions, or gives the first failure of the comparison. -/
def sortBy (items : List α) (cmp : α → α → Except ε Ordering)
    (t : Inquiry (Fin items.length) (List (Fin items.length))) : Except ε (List α) :=
  match (t.run (StableSort.latched (m := Id) (comparePositions items cmp))).run none with
  | (order, none) => .ok (order.map items.get)
  | (_, some e) => .error e

theorem sortBy_ok_iff : (∃ sorted, sortBy items cmp t = .ok sorted) ↔
    ∀ p ∈ t.asked (answer (comparePositions items cmp)),
      ∃ o, comparePositions items cmp p.1 p.2 = .ok o := by
  constructor
  · rintro ⟨sorted, h⟩
    unfold sortBy at h
    generalize hrun : (t.run (StableSort.latched (m := Id) (comparePositions items cmp))).run none =
      ended at h
    obtain ⟨order, _ | e⟩ := ended
    · exact ok_of_run_latched hrun
    · cases h
  · intro h
    rw [sortBy, run_latched_of_ok h]
    exact ⟨_, rfl⟩

theorem exists_sortBy (ht : ∀ ans, ∀ p ∈ t.asked ans, p.1 ≠ p.2)
    (h : items.Pairwise fun x y => (∃ o, cmp x y = .ok o) ∧ ∃ o, cmp y x = .ok o) :
    ∃ sorted, sortBy items cmp t = .ok sorted := by
  rw [sortBy_ok_iff]
  rintro ⟨i, j⟩ hij
  rw [List.pairwise_iff_get] at h
  rcases lt_or_gt_of_ne (ht _ _ hij) with hlt | hgt
  · exact (h i j hlt).1
  · exact (h j i hgt).2

/-- Comparisons of the items that do not fail stem from one total preorder. -/
def Consistent (items : List α) (cmp : α → α → Except ε Ordering) : Prop :=
  ∃ ord : α → α → Ordering, TransCmp ord ∧
    ∀ x ∈ items, ∀ y ∈ items, ∀ o, cmp x y = .ok o → o = ord x y

theorem SortsStably.derives_of_consistent (ht : t.SortsStably) (hcmp : Consistent items cmp)
    (h : ∃ sorted, sortBy items cmp t = .ok sorted) :
    t.Derives (answer (comparePositions items cmp)) := by
  obtain ⟨ord, hord, hagree⟩ := hcmp
  have hpositions : TransCmp fun i j : Fin items.length => ord (items.get i) (items.get j) :=
    { eq_swap := hord.eq_swap, isLE_trans := hord.isLE_trans }
  refine ht.derives hpositions fun p hp => ?_
  obtain ⟨o, ho⟩ := sortBy_ok_iff.mp h p hp
  rw [answer_of_ok ho]
  exact hagree _ (List.get_mem items p.1) _ (List.get_mem items p.2) o ho

/-- A sort that succeeds has put all items in order, for each transitive relation that comparisons
establish. -/
theorem pairwise_of_sortBy (ht : t.Derives (answer (comparePositions items cmp)))
    {R : α → α → Prop} (htrans : ∀ x y z, R x y → R y z → R x z)
    (hcmp : ∀ x ∈ items, ∀ y ∈ items, ∀ o, cmp x y = .ok o →
      (o ≠ .gt → R x y) ∧ (o ≠ .lt → R y x))
    {sorted : List α} (h : sortBy items cmp t = .ok sorted) :
    sorted.Perm items ∧ sorted.Pairwise R := by
  have hasked := sortBy_ok_iff.mp ⟨sorted, h⟩
  rw [sortBy, run_latched_of_ok hasked] at h
  obtain rfl := Except.ok.inj h
  have hitems : (List.finRange items.length).map items.get = items := by
    rw [← List.ofFn_eq_map, List.ofFn_get]
  refine ⟨(ht.perm.map items.get).trans (.of_eq hitems), List.pairwise_map.mpr ?_⟩
  refine ht.pairwise _ (fun _ _ _ => htrans _ _ _) fun p hp => ?_
  obtain ⟨o, ho⟩ := hasked p hp
  rw [answer_of_ok ho]
  exact hcmp _ (items.get_mem p.1) _ (items.get_mem p.2) o ho

/-- A sort that succeeds has related every two items, one way or the other, by each transitive
relation that comparisons establish. -/
theorem related_of_sortBy (ht : t.Derives (answer (comparePositions items cmp)))
    {R : α → α → Prop} (htrans : ∀ x y z, R x y → R y z → R x z)
    (hcmp : ∀ x y o, cmp x y = .ok o → (o ≠ .gt → R x y) ∧ (o ≠ .lt → R y x))
    (h : ∃ sorted, sortBy items cmp t = .ok sorted) :
    items.Pairwise fun x y => R x y ∨ R y x := by
  obtain ⟨sorted, h⟩ := h
  obtain ⟨hperm, hordered⟩ := pairwise_of_sortBy ht htrans (fun x _ y _ => hcmp x y) h
  have hsymm : ∀ {x y : α}, R x y ∨ R y x → R y x ∨ R x y := Or.symm
  exact (hperm.pairwise_iff hsymm).mp (hordered.imp .inl)

end

end Inquiry

end RecordQuery
