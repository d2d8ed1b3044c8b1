import Mathlib.Data.List.DropRight
import RecordQuery.Proofs.Store.Memory

/-!
# The history of a store

What a store in memory holds is a matter of the changes made to it: to each keyspace belong the
records appended since its last deletion, in the order in which they came.
-/

namespace RecordQuery

/-- The records that a scan of a keyspace shows once its source has become another. A slice lies in
the storage of the source and changes with it. -/
def Scan.shownBy {σ α : Type} [RecordSource σ α] (later : σ) (keyspace : String) : Scan α → List α
  | slice _ => RecordSource.items later keyspace
  | owned items => items
  | stream items => items.get

namespace MemoryStore

variable {α : Type}

/-- A call that changes a store. -/
inductive Change (α : Type) where
  | put (keyspace : String) (x : α)
  | putAll (keyspace : String) (items : List α)
  | delete (keyspace : String)

namespace Change

def keyspace : Change α → String
  | put keyspace _ => keyspace
  | putAll keyspace _ => keyspace
  | delete keyspace => keyspace

def items : Change α → List α
  | put _ x => [x]
  | putAll _ items => items
  | delete _ => []

def isDeletion : Change α → Bool
  | delete _ => true
  | _ => false

def apply (s : MemoryStore α) : Change α → MemoryStore α
  | put keyspace x => s.put keyspace x
  | putAll keyspace items => s.putAll keyspace items
  | delete keyspace => (s.delete keyspace).2

/-- What a change makes of the records of its keyspace. -/
def update (found : Option (List α)) (c : Change α) : Option (List α) :=
  if c.isDeletion then none else some (found.getD [] ++ c.items)

theorem get?_apply (s : MemoryStore α) (c : Change α) (keyspace : String) :
    (c.apply s).get? keyspace =
      if c.keyspace = keyspace then c.update (s.get? keyspace) else s.get? keyspace := by
  by_cases h : c.keyspace = keyspace
  · subst h
    rw [if_pos rfl]
    cases c with
    | put own x => exact (get?_putAll s own [x] own).trans (if_pos rfl)
    | putAll own items => exact (get?_putAll s own items own).trans (if_pos rfl)
    | delete own => exact (get?_delete s own own).trans (if_pos rfl)
  · rw [if_neg h]
    cases c with
    | put own x => exact (get?_putAll s own [x] keyspace).trans (if_neg h)
    | putAll own items => exact (get?_putAll s own items keyspace).trans (if_neg h)
    | delete own => exact (get?_delete s own keyspace).trans (if_neg h)

theorem get?_apply_of_ne {s : MemoryStore α} {c : Change α} {keyspace : String}
    (h : c.keyspace ≠ keyspace) : (c.apply s).get? keyspace = s.get? keyspace := by
  rw [get?_apply, if_neg h]

end Change

def after (s : MemoryStore α) (changes : List (Change α)) : MemoryStore α :=
  changes.foldl Change.apply s

/-! ## What a history leaves -/

/-- The changes of a keyspace since its last deletion. -/
def recent (keyspace : String) (history : List (Change α)) : List (Change α) :=
  (history.filter fun c => c.keyspace == keyspace).rtakeWhile fun c => !c.isDeletion

/-- The records appended to a keyspace since its last deletion, if anything was done to it since. -/
def appended (keyspace : String) (history : List (Change α)) : Option (List α) :=
  match recent keyspace history with
  | [] => none
  | changes => some (changes.flatMap Change.items)

theorem recent_concat (keyspace : String) (history : List (Change α)) (c : Change α) :
    recent keyspace (history ++ [c]) =
      if c.keyspace = keyspace then
        if c.isDeletion then [] else recent keyspace history ++ [c]
      else recent keyspace history := by
  unfold recent
  rw [List.filter_append]
  by_cases hown : c.keyspace = keyspace
  · rw [if_pos hown, List.filter_cons_of_pos (by simpa using hown), List.filter_nil,
      List.rtakeWhile_concat]
    cases c.isDeletion <;> rfl
  · rw [if_neg hown, List.filter_cons_of_neg (by simpa using hown), List.filter_nil,
      List.append_nil]

theorem getD_appended (keyspace : String) (history : List (Change α)) :
    (appended keyspace history).getD [] = (recent keyspace history).flatMap Change.items := by
  unfold appended
  cases recent keyspace history <;> rfl

theorem appended_concat (keyspace : String) (history : List (Change α)) (c : Change α) :
    appended keyspace (history ++ [c]) =
      if c.keyspace = keyspace then c.update (appended keyspace history)
      else appended keyspace history := by
  by_cases hown : c.keyspace = keyspace
  · rw [if_pos hown]
    unfold Change.update
    rw [getD_appended, appended, recent_concat, if_pos hown]
    cases c.isDeletion with
    | true => rfl
    | false => cases recent keyspace history <;> simp
  · unfold appended
    rw [if_neg hown, recent_concat, if_neg hown]

theorem get?_after_empty (history : List (Change α)) (keyspace : String) :
    (empty.after history).get? keyspace = appended keyspace history := by
  induction history using List.reverseRecOn with
  | nil => exact get?_empty keyspace
  | append_singleton history c ih =>
    rw [after, List.foldl_append, appended_concat, ← ih]
    exact c.get?_apply _ keyspace

theorem ofPairs_eq (pairs : List (String × α)) :
    ofPairs pairs = empty.after (pairs.map fun p => .put p.1 p.2) := by
  unfold ofPairs after
  rw [List.foldl_map]
  rfl

theorem scan?_eq (s : MemoryStore α) (keyspace : String) :
    RecordSource.scan? s keyspace = (s.get? keyspace).map Scan.owned := rfl

/-- A scan of a store shows the records of its own time, whatever becomes of the store. -/
theorem shownBy_scan? (s later : MemoryStore α) (keyspace : String) :
    (RecordSource.scan? s keyspace).map (Scan.shownBy later keyspace) = s.get? keyspace := by
  rw [scan?_eq]
  cases s.get? keyspace <;> rfl

/-- In a store made from pairs and changed since, a keyspace has the records appended to it since
its last deletion, in order. -/
theorem contents_follow_history (pairs : List (String × α)) (changes : List (Change α)) :
    let s := (ofPairs pairs).after changes
    let history := pairs.map (fun p => .put p.1 p.2) ++ changes
    (∀ k, RecordSource.scan? s k = (appended k history).map Scan.owned) ∧
    (∀ k, (s.delete k).1 = (appended k history).getD [] ∧
      RecordSource.scan? (s.delete k).2 k = none ∧ k ∉ (s.delete k).2.names) ∧
    (∀ k, s.size k = ((appended k history).getD []).length) ∧
    (∀ (c : Change α) (k : String), c.keyspace ≠ k →
      RecordSource.scan? (c.apply s) k = RecordSource.scan? s k ∧
      ((c.apply s).delete k).1 = (s.delete k).1 ∧ (c.apply s).size k = s.size k ∧
      (k ∈ (c.apply s).names ↔ k ∈ s.names)) ∧
    (∀ k later, (RecordSource.scan? s k).map (Scan.shownBy (s.after later) k) =
      appended k history) ∧
    s.names.Pairwise (· < ·) ∧ ∀ k, k ∈ s.names ↔ (appended k history).isSome = true := by
  intro s history
  have hs : s = empty.after history := by
    show (ofPairs pairs).after changes = _
    rw [ofPairs_eq]
    exact List.foldl_append.symm
  have hget (k : String) : s.get? k = appended k history := by
    rw [hs]
    exact get?_after_empty history k
  refine ⟨fun k => ?_, fun k => ⟨?_, ?_, ?_⟩, fun k => ?_, fun c k hne => ?_, fun k later => ?_,
    s.names_increasing, fun k => ?_⟩
  · rw [scan?_eq, hget]
  · show (s.get? k).getD [] = _
    rw [hget]
  · rw [scan?_eq, get?_delete, if_pos rfl]
    rfl
  · rw [mem_names_iff, get?_delete, if_pos rfl]
    simp
  · show ((s.get? k).getD []).length = _
    rw [hget]
  · have hkept : (c.apply s).get? k = s.get? k := Change.get?_apply_of_ne hne
    refine ⟨?_, ?_, ?_, ?_⟩
    · rw [scan?_eq, scan?_eq, hkept]
    · show ((c.apply s).get? k).getD [] = (s.get? k).getD []
      rw [hkept]
    · show (((c.apply s).get? k).getD []).length = ((s.get? k).getD []).length
      rw [hkept]
    · rw [mem_names_iff, mem_names_iff, hkept]
  · rw [shownBy_scan?, hget]
  · rw [mem_names_iff, hget]

/-- A keyspace deleted and filled again has the new records only, while a scan from before shows the
old ones; a keyspace filled with nothing exists. -/
theorem contents_follow_history_refilled :
    let s := (ofPairs [("a", 1), ("b", 2)]).after [.putAll "a" [3, 4]]
    let later := [Change.delete "a", .putAll "c" [], .put "a" 5]
    (RecordSource.scan? s "a").map (Scan.shownBy (s.after later) "a") = some [1, 3, 4] ∧
      RecordSource.scan? (s.after later) "a" = some (.owned [5]) ∧
      (s.after later).size "b" = 1 ∧ "c" ∈ (s.after later).names ∧
      RecordSource.scan? ((Change.delete "b").apply (s.after later)) "a" = some (.owned [5]) := by
  intro s later
  obtain ⟨-, -, -, -, hshown, -⟩ :=
    contents_follow_history [("a", 1), ("b", 2)] [.putAll "a" [3, 4]]
  obtain ⟨hscan, -, hsize, hkept, -, -, hnames⟩ :=
    contents_follow_history [("a", 1), ("b", 2)] (.putAll "a" [3, 4] :: later)
  have hscanned : RecordSource.scan? (s.after later) "a" = some (.owned [5]) :=
    (hscan "a").trans rfl
  refine ⟨(hshown "a" later).trans (by decide), hscanned, (hsize "b").trans (by decide),
    (hnames "c").mpr (by decide), ?_⟩
  exact (hkept (.delete "b") "a" (by decide)).1.trans hscanned

end MemoryStore

end RecordQuery
