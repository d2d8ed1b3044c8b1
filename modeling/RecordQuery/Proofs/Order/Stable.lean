import RecordQuery.Order.Stable
import RecordQuery.Proofs.Order.Preorder

/-!
# Sorting by insertion

Equations of the sort in any monad.
-/

namespace RecordQuery.StableSort

section

variable {m : Type → Type} [Monad m] {α : Type}

theorem insert_cons (cmp : α → α → m Ordering) (x y : α) (ys : List α) :
    insert cmp x (y :: ys) = cmp x y >>= fun o =>
      if o == .lt then insert cmp x ys >>= fun rest => pure (y :: rest)
      else pure (x :: y :: ys) := rfl

theorem insertAll_cons (cmp : α → α → m Ordering) (x : α) (xs sorted : List α) :
    insertAll cmp (x :: xs) sorted = insert cmp x sorted >>= insertAll cmp xs := rfl

end

section

variable {m : Type → Type} [Monad m] [LawfulMonad m] {ε α : Type}

theorem latched_run_some (cmp : α → α → ExceptT ε m Ordering) (a b : α) (e : ε) :
    (latched cmp a b).run (some e) = pure (.eq, some e) := by
  simp [latched]

theorem latched_run_none (cmp : α → α → ExceptT ε m Ordering) (a b : α) :
    (latched cmp a b).run none = (cmp a b).run >>= fun
      | .ok o => pure (o, none)
      | .error e => pure (.eq, some e) := by
  simp only [latched, StateT.run_bind, StateT.run_get, pure_bind, StateT.run_monadLift]
  simp only [monadLift_self, bind_assoc, pure_bind]
  refine bind_congr fun r => ?_
  cases r <;> simp

theorem sort_run (cmp : α → α → ExceptT ε m Ordering) (items : List α) :
    (sort cmp items).run = (insertAll (latched cmp) items []).run none >>= fun
      | (sorted, none) => pure (.ok sorted.reverse)
      | (_, some e) => pure (.error e) := by
  simp only [sort, insertionSort, ExceptT.run_bind, StateT.run_map, liftM_map,
    ExceptT.run_liftM, bind_map_left]
  refine bind_congr fun r => ?_
  obtain ⟨sorted, _ | e⟩ := r <;> rfl

end

section

variable {σ α : Type} {cmp : α → α → StateT σ Id Ordering}

theorem insert_perm (cmp : α → α → StateT σ Id Ordering) (x : α) (ys : List α) (st : σ) :
    ((insert cmp x ys).run st).1.Perm (x :: ys) := by
  induction ys generalizing st with
  | nil => exact .refl _
  | cons y ys ih =>
    rw [insert_cons, StateT.run_bind]
    generalize (cmp x y).run st = compared
    obtain ⟨o, st'⟩ := compared
    cases o with
    | lt => exact ((ih st').cons y).trans (.swap x y ys)
    | eq => exact .refl _
    | gt => exact .refl _

theorem insertAll_perm (cmp : α → α → StateT σ Id Ordering) (items sorted : List α) (st : σ) :
    ((insertAll cmp items sorted).run st).1.Perm (items ++ sorted) := by
  induction items generalizing sorted st with
  | nil => exact .refl _
  | cons x items ih =>
    rw [insertAll_cons, StateT.run_bind]
    have hx := insert_perm cmp x sorted st
    generalize (insert cmp x sorted).run st = inserted at hx ⊢
    obtain ⟨sorted', st'⟩ := inserted
    calc ((insertAll cmp items sorted').run st').1.Perm (items ++ sorted') := ih sorted' st'
      _ |>.Perm (items ++ x :: sorted) := hx.append_left items
      _ |>.Perm (x :: (items ++ sorted)) := List.perm_middle

end

theorem perm_of_sort {ε α : Type} {cmp : α → α → ExceptT ε Id Ordering} {items sorted : List α}
    (h : (sort cmp items).run = .ok sorted) : sorted.Perm items := by
  have hperm := insertAll_perm (latched cmp) items [] none
  rw [sort_run] at h
  generalize (insertAll (latched cmp) items []).run none = result at h hperm
  obtain ⟨found, _ | e⟩ := result
  · cases h
    simpa using (List.reverse_perm found).trans hperm
  · cases h

/-! ## Comparisons that rank -/

section

variable {ε α : Type}

def notAbove (cmp : α → α → Except ε Ordering) (a b : α) : Bool :=
  match cmp a b with
  | .ok o => o != .gt
  | .error _ => false

/-- The comparison never fails on items with a property, and is a total preorder on them. -/
structure Ranks (cmp : α → α → Except ε Ordering) (P : α → Prop) : Prop where
  swap : ∀ {a b}, P a → P b → ∃ o, cmp a b = .ok o ∧ cmp b a = .ok o.swap
  trans : ∀ {a b c}, P a → P b → P c → notAbove cmp a b = true → notAbove cmp b c = true →
    notAbove cmp a c = true

variable {cmp : α → α → Except ε Ordering} {P : α → Prop}

theorem notAbove_of_ok {a b : α} {o : Ordering} (h : cmp a b = .ok o) :
    notAbove cmp a b = (o != .gt) := by
  rw [notAbove, h]

theorem Ranks.preorderOn (h : Ranks cmp P) : PreorderOn (notAbove cmp) P := by
  refine ⟨fun ha hb => ?_, h.trans⟩
  obtain ⟨o, hab, hba⟩ := h.swap ha hb
  rw [notAbove_of_ok hab, notAbove_of_ok hba]
  cases o <;> decide

theorem Ranks.mono {Q : α → Prop} (h : Ranks cmp P) (hPQ : ∀ x, Q x → P x) : Ranks cmp Q :=
  ⟨fun ha hb => h.swap (hPQ _ ha) (hPQ _ hb),
    fun ha hb hc => h.trans (hPQ _ ha) (hPQ _ hb) (hPQ _ hc)⟩

theorem Ranks.of_rank (rank : α → Nat)
    (h : ∀ a b, P a → P b → cmp a b = .ok (compare (rank a) (rank b))) : Ranks cmp P := by
  have hle {a b : α} (ha : P a) (hb : P b) : notAbove cmp a b = true ↔ rank a ≤ rank b := by
    rw [notAbove_of_ok (h a b ha hb), bne_iff_ne, Nat.compare_ne_gt]
  refine ⟨fun {a b} ha hb => ⟨_, h a b ha hb, ?_⟩, fun ha hb hc hab hbc => ?_⟩
  · rw [Nat.compare_swap]
    exact h b a hb ha
  · rw [hle ha hb] at hab
    rw [hle hb hc] at hbc
    exact (hle ha hc).mpr (Nat.le_trans hab hbc)

theorem latched_run_ok {x y : α} {o : Ordering} (h : cmp x y = .ok o) :
    (latched (m := Id) cmp x y).run none = (o, none) := by
  have hrun : ExceptT.run (m := Id) (cmp x y) = .ok o := h
  rw [latched_run_none, hrun]
  rfl

theorem latched_run_error {x y : α} {e : ε} (h : cmp x y = .error e) :
    (latched (m := Id) cmp x y).run none = (.eq, some e) := by
  have hrun : ExceptT.run (m := Id) (cmp x y) = .error e := h
  rw [latched_run_none, hrun]
  rfl

/-- Insertion into a list sorted from the largest down puts the item before its ties. -/
theorem insert_spec (h : Ranks cmp P) {x : α} (hx : P x) {ys : List α} (hys : ∀ y ∈ ys, P y)
    (hsorted : ys.Pairwise fun a b => notAbove cmp b a = true) :
    ∃ zs, (insert (latched (m := Id) cmp) x ys).run none = (zs, none) ∧
      StablySorted (fun a b => notAbove cmp b a) (x :: ys) zs := by
  have hpre := h.preorderOn.flip
  induction ys with
  | nil => exact ⟨[x], rfl, .of_pairwise (List.pairwise_singleton _ _)⟩
  | cons y ys ih =>
    obtain ⟨o, hxy, hyx⟩ := h.swap hx (hys y List.mem_cons_self)
    have habove := notAbove_of_ok hyx
    rw [insert_cons, StateT.run_bind, latched_run_ok hxy]
    cases o with
    | lt =>
      obtain ⟨zs, hrun, hs⟩ := ih (fun z hz => hys z (List.mem_cons_of_mem y hz)) hsorted.of_cons
      refine ⟨y :: zs, ?_, hs.cons_swap hpre hx hys habove hsorted⟩
      show ((insert (latched (m := Id) cmp) x ys >>= fun rest => pure (y :: rest)).run none) = _
      rw [StateT.run_bind, hrun]
      rfl
    | eq => exact ⟨x :: y :: ys, rfl, .of_pairwise (hpre.pairwise_cons_cons hx hys habove hsorted)⟩
    | gt => exact ⟨x :: y :: ys, rfl, .of_pairwise (hpre.pairwise_cons_cons hx hys habove hsorted)⟩

theorem insertAll_spec (h : Ranks cmp P) {items rest sorted : List α} (hitems : ∀ x ∈ items, P x)
    (hrest : ∀ x ∈ rest, P x) (hs : StablySorted (fun a b => notAbove cmp b a) rest sorted) :
    ∃ zs, (insertAll (latched (m := Id) cmp) items sorted).run none = (zs, none) ∧
      StablySorted (fun a b => notAbove cmp b a) (items.reverse ++ rest) zs := by
  induction items generalizing rest sorted with
  | nil => exact ⟨sorted, rfl, hs⟩
  | cons x items ih =>
    obtain ⟨hx, hitems⟩ := List.forall_mem_cons.mp hitems
    have hsorted : ∀ y ∈ sorted, P y := fun y hy => hrest y (hs.perm.mem_iff.mp hy)
    obtain ⟨inserted, hrun, hinserted⟩ := insert_spec h hx hsorted hs.pairwise
    have hstep := hs.cons_trans h.preorderOn.flip hx hrest hinserted
    obtain ⟨zs, hruns, hzs⟩ := ih hitems (List.forall_mem_cons.mpr ⟨hx, hrest⟩) hstep
    refine ⟨zs, ?_, ?_⟩
    · rw [insertAll_cons, StateT.run_bind, hrun]
      exact hruns
    · rw [List.reverse_cons, List.append_assoc]
      exact hzs

/-- With a comparison that ranks, the sort succeeds and is the stable sort of the library. -/
theorem sort_eq_mergeSort {items : List α} (h : Ranks cmp (· ∈ items)) :
    (sort (m := Id) cmp items).run = .ok (items.mergeSort (notAbove cmp)) := by
  obtain ⟨zs, hrun, hs⟩ := insertAll_spec h (fun _ hx => hx) (fun _ hx => by cases hx)
    (.of_pairwise .nil)
  rw [List.append_nil] at hs
  have hsorted : StablySorted (notAbove cmp) items zs.reverse := by
    simpa using hs.reverse
  rw [sort_run, hrun]
  exact congrArg Except.ok (hsorted.unique h.preorderOn (.mergeSort h.preorderOn))

end

end RecordQuery.StableSort
