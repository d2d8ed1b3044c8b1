import RecordQuery.Proofs.Order.Inquiry

/-!
# Insertion sort as a tree

The sort of the library asks for comparisons in any monad, so it can also be run as the tree of what
it asks. That tree sorts, and it derives its result even from answers that contradict each other.
-/

namespace RecordQuery

open Std

namespace Inquiry

variable {ι β γ : Type}

def bind : Inquiry ι β → (β → Inquiry ι γ) → Inquiry ι γ
  | done b, f => f b
  | ask i j next, f => ask i j fun o => (next o).bind f

instance : Monad (Inquiry ι) where
  pure := done
  bind := bind

def compare (i j : ι) : Inquiry ι Ordering := ask i j done

section

variable {m : Type → Type} [Monad m] [LawfulMonad m] (cmp : ι → ι → m Ordering)

omit [LawfulMonad m] in
@[simp] theorem run_pure (b : β) : run cmp (pure b) = pure b := rfl

@[simp] theorem run_bind (t : Inquiry ι β) (f : β → Inquiry ι γ) :
    run cmp (t >>= f) = run cmp t >>= fun b => run cmp (f b) := by
  induction t with
  | done b => exact (pure_bind b fun b => run cmp (f b)).symm
  | ask i j next ih =>
    change (cmp i j >>= fun o => run cmp (next o >>= f)) = _
    simp only [ih, run, bind_assoc]

@[simp] theorem run_compare (i j : ι) : run cmp (compare i j) = cmp i j := bind_pure (cmp i j)

theorem run_insert (x : ι) (ys : List ι) :
    run cmp (StableSort.insert compare x ys) = StableSort.insert cmp x ys := by
  induction ys with
  | nil => rfl
  | cons y ys ih =>
    simp only [StableSort.insert_cons, run_bind, run_compare]
    refine bind_congr fun o => ?_
    split
    · rw [run_bind, ih]
      rfl
    · rfl

theorem run_insertAll (items sorted : List ι) :
    run cmp (StableSort.insertAll compare items sorted) =
      StableSort.insertAll cmp items sorted := by
  induction items generalizing sorted with
  | nil => rfl
  | cons x items ih =>
    simp only [StableSort.insertAll_cons, run_bind, run_insert, ih]

end

section

variable (ans : ι → ι → Ordering)

theorem result_bind (t : Inquiry ι β) (f : β → Inquiry ι γ) :
    (t >>= f).result ans = (f (t.result ans)).result ans := by
  induction t with
  | done => rfl
  | ask i j next ih => exact ih (ans i j)

theorem asked_bind (t : Inquiry ι β) (f : β → Inquiry ι γ) :
    (t >>= f).asked ans = t.asked ans ++ (f (t.result ans)).asked ans := by
  induction t with
  | done => rfl
  | ask i j next ih => exact congrArg ((i, j) :: ·) (ih (ans i j))

theorem run_latched_ok (t : Inquiry ι β) :
    (t.run (StableSort.latched (m := Id) fun i j => (.ok (ans i j) : Except Unit Ordering))).run
      none = (t.result ans, none) :=
  run_latched_of_ok fun p _ => ⟨ans p.1 p.2, rfl⟩

end

end Inquiry

namespace StableSort

variable {ι : Type} {ans : ι → ι → Ordering}

/-! ## What is asked -/

theorem asked_insert_cons (x y : ι) (ys : List ι) :
    (insert Inquiry.compare x (y :: ys)).asked ans =
      (x, y) :: if ans x y = .lt then (insert Inquiry.compare x ys).asked ans else [] := by
  rw [insert_cons, Inquiry.asked_bind]
  refine congrArg ((x, y) :: ·) ?_
  change ((if ans x y == .lt then _ else _ : Inquiry ι (List ι)).asked ans) = _
  by_cases hlt : ans x y = .lt
  · rw [if_pos (by simp [hlt]), if_pos hlt, Inquiry.asked_bind]
    exact List.append_nil _
  · rw [if_neg (by simp [hlt]), if_neg hlt]
    rfl

theorem result_insert_cons (x y : ι) (ys : List ι) :
    (insert Inquiry.compare x (y :: ys)).result ans =
      if ans x y = .lt then y :: (insert Inquiry.compare x ys).result ans else x :: y :: ys := by
  rw [insert_cons, Inquiry.result_bind]
  change ((if ans x y == .lt then _ else _ : Inquiry ι (List ι)).result ans) = _
  by_cases hlt : ans x y = .lt
  · rw [if_pos (by simp [hlt]), if_pos hlt, Inquiry.result_bind]
    rfl
  · rw [if_neg (by simp [hlt]), if_neg hlt]
    rfl

theorem mem_asked_insert {x : ι} {ys : List ι} {p : ι × ι}
    (hp : p ∈ (insert Inquiry.compare x ys).asked ans) : p.1 = x ∧ p.2 ∈ ys := by
  induction ys with
  | nil => cases hp
  | cons y ys ih =>
    rw [asked_insert_cons] at hp
    rcases List.mem_cons.mp hp with rfl | hp
    · exact ⟨rfl, List.mem_cons_self⟩
    · split at hp
      · exact ⟨(ih hp).1, List.mem_cons_of_mem y (ih hp).2⟩
      · cases hp

theorem result_insert_perm (ans : ι → ι → Ordering) (x : ι) (ys : List ι) :
    ((insert Inquiry.compare x ys).result ans).Perm (x :: ys) := by
  have hperm := insert_perm (latched (m := Id) fun i j => (.ok (ans i j) : Except Unit Ordering))
    x ys none
  rwa [← Inquiry.run_insert, Inquiry.run_latched_ok] at hperm

theorem result_insertAll_perm (ans : ι → ι → Ordering) (items sorted : List ι) :
    ((insertAll Inquiry.compare items sorted).result ans).Perm (items ++ sorted) := by
  have hperm := insertAll_perm (latched (m := Id) fun i j => (.ok (ans i j) : Except Unit Ordering))
    items sorted none
  rwa [← Inquiry.run_insertAll, Inquiry.run_latched_ok] at hperm

theorem ne_of_asked_insertAll {items sorted : List ι} (h : (items ++ sorted).Nodup) {p : ι × ι}
    (hp : p ∈ (insertAll Inquiry.compare items sorted).asked ans) : p.1 ≠ p.2 := by
  induction items generalizing sorted with
  | nil => cases hp
  | cons x items ih =>
    obtain ⟨hx, hrest⟩ := List.nodup_cons.mp h
    rw [insertAll_cons, Inquiry.asked_bind] at hp
    rcases List.mem_append.mp hp with hp | hp
    · obtain ⟨rfl, hy⟩ := mem_asked_insert hp
      rintro heq
      exact hx (heq ▸ List.mem_append_right items hy)
    · refine ih ?_ hp
      have hperm := (result_insert_perm ans x sorted).append_left items
      exact (hperm.trans List.perm_middle).nodup_iff.mpr h

/-! ## What the answers establish -/

section

variable {R : ι → ι → Prop}

/-- Insertion keeps a list in order, which goes from the greatest item down. The new item is related
to the one it stops at and, through that, to all behind. -/
theorem pairwise_insert (htrans : ∀ i j k, R i j → R j k → R i k) {x : ι} {ys : List ι}
    (hys : ys.Pairwise fun a b => R b a)
    (h : Inquiry.Establish ans ((insert Inquiry.compare x ys).asked ans) R) :
    ((insert Inquiry.compare x ys).result ans).Pairwise fun a b => R b a := by
  induction ys with
  | nil => exact List.pairwise_singleton _ x
  | cons y ys ih =>
    obtain ⟨hy, hsorted⟩ := List.pairwise_cons.mp hys
    rw [asked_insert_cons] at h
    obtain ⟨⟨hle, hge⟩, hrest⟩ := List.forall_mem_cons.mp h
    rw [result_insert_cons]
    by_cases hlt : ans x y = .lt
    · rw [if_pos hlt] at hrest ⊢
      have hxy : R x y := hle (by simp [hlt])
      refine List.pairwise_cons.mpr ⟨fun z hz => ?_, ih hsorted hrest⟩
      rcases List.mem_cons.mp ((result_insert_perm ans x ys).mem_iff.mp hz) with rfl | hz
      · exact hxy
      · exact hy z hz
    · rw [if_neg hlt]
      have hyx : R y x := hge hlt
      refine List.pairwise_cons.mpr ⟨fun z hz => ?_, hys⟩
      rcases List.mem_cons.mp hz with rfl | hz
      · exact hyx
      · exact htrans z y x (hy z hz) hyx

theorem pairwise_insertAll (htrans : ∀ i j k, R i j → R j k → R i k) {items sorted : List ι}
    (hsorted : sorted.Pairwise fun a b => R b a)
    (h : Inquiry.Establish ans ((insertAll Inquiry.compare items sorted).asked ans) R) :
    ((insertAll Inquiry.compare items sorted).result ans).Pairwise fun a b => R b a := by
  induction items generalizing sorted with
  | nil => exact hsorted
  | cons x items ih =>
    rw [insertAll_cons, Inquiry.asked_bind] at h
    rw [insertAll_cons, Inquiry.result_bind]
    refine ih (pairwise_insert htrans hsorted fun p hp => ?_) fun p hp => ?_
    · exact h p (List.mem_append_left _ hp)
    · exact h p (List.mem_append_right _ hp)

end

/-! ## Positions -/

section

variable {m : Type → Type} [Monad m] [LawfulMonad m] {α β : Type}

theorem insert_map (cmp : β → β → m Ordering) (f : α → β) (x : α) (ys : List α) :
    insert cmp (f x) (ys.map f) = List.map f <$> insert (fun a b => cmp (f a) (f b)) x ys := by
  induction ys with
  | nil => simp [insert]
  | cons y ys ih =>
    simp only [List.map_cons, insert_cons, map_bind]
    refine bind_congr fun o => ?_
    split
    · rw [ih]
      simp
    · simp

theorem insertAll_map (cmp : β → β → m Ordering) (f : α → β) (items sorted : List α) :
    insertAll cmp (items.map f) (sorted.map f) =
      List.map f <$> insertAll (fun a b => cmp (f a) (f b)) items sorted := by
  induction items generalizing sorted with
  | nil => simp [insertAll]
  | cons x items ih =>
    simp only [List.map_cons, insertAll_cons, map_bind, insert_map, bind_map_left]
    exact bind_congr ih

theorem insertionSort_map (cmp : β → β → m Ordering) (f : α → β) (items : List α) :
    insertionSort cmp (items.map f) =
      List.map f <$> insertionSort (fun a b => cmp (f a) (f b)) items := by
  have hmap := insertAll_map cmp f items []
  rw [List.map_nil] at hmap
  simp [insertionSort, hmap]

end

theorem sort_run_eq_match {ε α : Type} (cmp : α → α → Except ε Ordering) (items : List α) :
    (sort (m := Id) cmp items).run =
      match (insertionSort (latched (m := Id) cmp) items).run none with
      | (sorted, none) => .ok sorted
      | (_, some e) => .error e := by
  rw [sort, ExceptT.run_bind, ExceptT.run_liftM]
  generalize (insertionSort (latched (m := Id) cmp) items).run none = ended
  obtain ⟨sorted, _ | e⟩ := ended <;> rfl

end StableSort

namespace Inquiry

def insertion (n : Nat) : Inquiry (Fin n) (List (Fin n)) :=
  StableSort.insertionSort compare (List.finRange n)

theorem run_insertion {m : Type → Type} [Monad m] [LawfulMonad m] {n : Nat}
    (cmp : Fin n → Fin n → m Ordering) :
    (insertion n).run cmp = StableSort.insertionSort cmp (List.finRange n) := by
  have hbind := run_bind cmp (StableSort.insertAll compare (List.finRange n) [])
    fun sorted => pure sorted.reverse
  simp only [run_insertAll, run_pure, bind_pure_comp] at hbind
  exact hbind

theorem result_insertion {n : Nat} (ans : Fin n → Fin n → Ordering) :
    (insertion n).result ans =
      ((StableSort.insertAll compare (List.finRange n) []).result ans).reverse :=
  result_bind ans _ _

theorem asked_insertion {n : Nat} (ans : Fin n → Fin n → Ordering) :
    (insertion n).asked ans = (StableSort.insertAll compare (List.finRange n) []).asked ans := by
  have hbind := asked_bind ans (StableSort.insertAll compare (List.finRange n) [])
    fun sorted => pure sorted.reverse
  exact hbind.trans (List.append_nil _)

theorem insertion_derives {n : Nat} (ans : Fin n → Fin n → Ordering) :
    (insertion n).Derives ans := by
  refine ⟨?_, fun R htrans hR => ?_⟩
  · rw [result_insertion]
    simpa using (List.reverse_perm _).trans
      (StableSort.result_insertAll_perm ans (List.finRange n) [])
  · rw [asked_insertion] at hR
    rw [result_insertion, List.pairwise_reverse]
    exact StableSort.pairwise_insertAll htrans .nil hR

theorem insertion_distinct {n : Nat} (ans : Fin n → Fin n → Ordering) :
    ∀ p ∈ (insertion n).asked ans, p.1 ≠ p.2 := by
  intro p hp
  rw [asked_insertion] at hp
  exact StableSort.ne_of_asked_insertAll (by simpa using List.nodup_finRange n) hp

/-- The sort of the library runs the insertion tree. -/
theorem sort_eq_sortBy {ε α : Type} (cmp : α → α → Except ε Ordering) (items : List α) :
    (StableSort.sort (m := Id) cmp items).run = sortBy items cmp (insertion items.length) := by
  have hpositions : StableSort.insertionSort (StableSort.latched (m := Id) cmp) items =
      List.map items.get <$> StableSort.insertionSort
        (StableSort.latched (m := Id) (comparePositions items cmp))
        (List.finRange items.length) := by
    have hmap := StableSort.insertionSort_map (StableSort.latched (m := Id) cmp) items.get
      (List.finRange items.length)
    rwa [← List.ofFn_eq_map, List.ofFn_get] at hmap
  rw [StableSort.sort_run_eq_match, hpositions, StateT.run_map, sortBy, run_insertion]
  generalize (StableSort.insertionSort (StableSort.latched (m := Id) (comparePositions items cmp))
    (List.finRange items.length)).run none = ended
  obtain ⟨order, _ | e⟩ := ended <;> rfl

theorem insertion_sortsStably (n : Nat) : (insertion n).SortsStably := by
  refine ⟨insertion_distinct, fun ord hord => ?_⟩
  let cmp (i j : Fin n) : Except Unit Ordering := .ok (ord i j)
  have hle : StableSort.notAbove cmp = fun i j => (ord i j).isLE := by
    funext i j
    have hij : cmp i j = .ok (ord i j) := rfl
    rw [StableSort.notAbove_of_ok hij]
    cases ord i j <;> rfl
  have hranks : StableSort.Ranks cmp (· ∈ List.finRange n) := by
    refine ⟨fun {i j} _ _ => ⟨ord i j, rfl, congrArg Except.ok hord.eq_swap⟩, ?_⟩
    rw [hle]
    exact fun _ _ _ => TransCmp.isLE_trans
  have hsort := StableSort.sort_eq_mergeSort hranks
  have hrun := run_latched_ok ord (insertion n)
  rw [run_insertion] at hrun
  rw [StableSort.sort_run_eq_match, hrun] at hsort
  rw [Except.ok.inj hsort, ← hle]
  exact .mergeSort hranks.preorderOn

end Inquiry

end RecordQuery
