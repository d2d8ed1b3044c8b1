import Mathlib.Data.List.SplitBy
import RecordQuery.Filter.Clause

/-!
# Groups of conditions

Conditions with connectors fall into groups, a new one at every disjunction behind the first
condition. `joinConditions` is what assembling makes of conditions. It is the disjunction of the
conjunctions of the groups, so a record passes it as the groups say from left to right: a group
stops at its first false condition, the whole at its first true group.
-/

namespace RecordQuery.Filter

/-- The conditions by groups. -/
def groups (conditions : List (Connector × Filter)) : List (List Filter) :=
  (conditions.splitBy fun _ next => next.1 == .and).map (List.map Prod.snd)

/-- Adds conditions to the groups finished so far and to the group at hand. -/
def joinConditions (branches group : Option Filter) : List (Connector × Filter) → Option Filter
  | [] =>
    match group with
    | some group => some (joinOr branches group)
    | none => branches
  | (connector, c) :: rest =>
    match group, connector with
    | some group, .or => joinConditions (some (joinOr branches group)) (some c) rest
    | some group, .and => joinConditions branches (some (and group c)) rest
    | none, _ => joinConditions branches (some c) rest

/-- Joins filters from left to right by an operation; of no filters nothing is made. -/
def joinAll (op : Filter → Filter → Filter) : List Filter → Option Filter
  | [] => none
  | f :: rest => some (rest.foldl op f)

theorem joinAll_concat (op : Filter → Filter → Filter) {fs : List Filter} {f : Filter}
    (h : joinAll op fs = some f) (next : Filter) :
    joinAll op (fs ++ [next]) = some (op f next) := by
  cases fs with
  | nil => cases h
  | cons g rest =>
    cases h
    simp [joinAll]

theorem joinAll_or_concat (fs : List Filter) (next : Filter) :
    joinAll or (fs ++ [next]) = some (joinOr (joinAll or fs) next) := by
  cases fs with
  | nil => rfl
  | cons f rest => exact joinAll_concat or rfl next

/-! ## The shape of joined conditions -/

/-- Behind the first condition of a group all are conjunctions. -/
def OneGroup (conditions : List (Connector × Filter)) : Prop :=
  conditions.IsChain fun _ next => (next.1 == .and) = true

theorem OneGroup.concat {conditions : List (Connector × Filter)} (h : OneGroup conditions)
    (c : Filter) : OneGroup (conditions ++ [(.and, c)]) := by
  refine List.isChain_append.mpr ⟨h, List.isChain_singleton _, fun x _ y hy => ?_⟩
  cases hy
  rfl

theorem groups_of_oneGroup {conditions : List (Connector × Filter)} (hne : conditions ≠ [])
    (h : OneGroup conditions) : groups conditions = [conditions.map Prod.snd] := by
  rw [groups, List.splitBy_of_isChain hne h]
  rfl

theorem groups_append_or (before : List (Connector × Filter)) (c : Filter)
    (rest : List (Connector × Filter)) :
    groups (before ++ (.or, c) :: rest) = groups before ++ groups ((.or, c) :: rest) := by
  unfold groups
  rw [List.splitBy_append_cons rest fun _ _ => rfl, List.map_append]

/-- With the finished groups and the group at hand in the accumulators, what comes out is the
disjunction of all groups. -/
theorem joinConditions_eq (done : List Filter) (current : List (Connector × Filter))
    (hcurrent : OneGroup current) (rest : List (Connector × Filter)) :
    joinConditions (joinAll or done) (joinAll and (current.map Prod.snd)) rest =
      joinAll or (done ++ (groups (current ++ rest)).filterMap (joinAll and)) := by
  induction rest generalizing done current with
  | nil =>
    rw [List.append_nil]
    cases hgroup : joinAll and (current.map Prod.snd) with
    | none =>
      cases current with
      | nil => simp [joinConditions, groups]
      | cons => cases hgroup
    | some group =>
      have hne : current ≠ [] := by
        rintro rfl
        cases hgroup
      rw [groups_of_oneGroup hne hcurrent, List.filterMap_cons_some hgroup, List.filterMap_nil,
        joinAll_or_concat]
      rfl
  | cons next rest ih =>
    obtain ⟨connector, c⟩ := next
    cases hgroup : joinAll and (current.map Prod.snd) with
    | none =>
      cases current with
      | nil => exact ih done [(connector, c)] (List.isChain_singleton _)
      | cons => cases hgroup
    | some group =>
      have hne : current ≠ [] := by
        rintro rfl
        cases hgroup
      cases connector with
      | and =>
        have hstep := ih done _ (hcurrent.concat c)
        rw [List.map_append, List.map_singleton, joinAll_concat and hgroup,
          List.append_assoc] at hstep
        exact hstep
      | or =>
        have hstep := ih (done ++ [group]) [(.or, c)] (List.isChain_singleton _)
        rw [joinAll_or_concat, List.append_assoc] at hstep
        rw [groups_append_or, List.filterMap_append, groups_of_oneGroup hne hcurrent,
          List.filterMap_cons_some hgroup]
        exact hstep

theorem joinConditions_none (conditions : List (Connector × Filter)) :
    joinConditions none none conditions =
      joinAll or ((groups conditions).filterMap (joinAll and)) :=
  joinConditions_eq [] [] List.isChain_nil conditions

theorem isSome_joinConditions (branches : Option Filter) (group : Filter)
    (rest : List (Connector × Filter)) : (joinConditions branches (some group) rest).isSome := by
  induction rest generalizing branches group with
  | nil => rfl
  | cons next rest ih =>
    obtain ⟨connector, c⟩ := next
    cases connector with
    | and => exact ih _ _
    | or => exact ih _ _

/-! ## What passes -/

theorem passes_leaf (l : Leaf) (r : Record) :
    (leaf l).passes r = l.path.path.resolve r >>= fun v => l.test.run v := by
  have hread : (leaf l).passes r = (do
      let v ← (l.path.path.resolve r : ExceptT QueryError Id (Option Value))
      ExceptT.mk (pure (l.test.run v)) : ExceptT QueryError Id Bool) := rfl
  rw [hread]
  cases l.path.path.resolve r <;> rfl

section

variable {m : Type → Type} [Monad m] [LawfulMonad m] (read : PathReader m) (r : Record)

theorem passesVia_foldl_and (f : Filter) (rest : List Filter) :
    (rest.foldl and f).passesVia read r = (f :: rest).allM (passesVia read r) := by
  induction rest generalizing f with
  | nil =>
    refine (bind_pure _).symm.trans (bind_congr fun b => ?_)
    cases b <;> rfl
  | cons g rest ih =>
    rw [List.foldl_cons, ih]
    simp only [List.allM, passesVia, bind_assoc]
    refine bind_congr fun b => ?_
    cases b <;> simp

theorem passesVia_foldl_or (f : Filter) (rest : List Filter) :
    (rest.foldl or f).passesVia read r = (f :: rest).anyM (passesVia read r) := by
  induction rest generalizing f with
  | nil =>
    refine (bind_pure _).symm.trans (bind_congr fun b => ?_)
    cases b <;> rfl
  | cons g rest ih =>
    rw [List.foldl_cons, ih]
    simp only [List.anyM, passesVia, bind_assoc]
    refine bind_congr fun b => ?_
    cases b <;> simp

theorem anyM_conjunctions {gs : List (List Filter)} (h : [] ∉ gs) :
    (gs.filterMap (joinAll and)).anyM (passesVia read r) =
      gs.anyM fun group => group.allM (passesVia read r) := by
  induction gs with
  | nil => rfl
  | cons group gs ih =>
    rw [List.mem_cons, not_or] at h
    obtain ⟨hgroup, hgs⟩ := h
    cases group with
    | nil => exact absurd rfl hgroup
    | cons f rest =>
      have hjoined : joinAll and (f :: rest) = some (rest.foldl and f) := rfl
      rw [List.filterMap_cons_some hjoined, List.anyM, List.anyM, passesVia_foldl_and, ih hgs]

theorem nil_notMem_groups (conditions : List (Connector × Filter)) : [] ∉ groups conditions := by
  unfold groups
  rw [List.mem_map]
  rintro ⟨group, hmem, hnil⟩
  exact List.ne_nil_of_mem_splitBy hmem (List.map_eq_nil_iff.mp hnil)

theorem passesVia_joinAll_or {branches : List Filter} {f : Filter}
    (h : joinAll or branches = some f) :
    f.passesVia read r = branches.anyM (passesVia read r) := by
  cases branches with
  | nil => cases h
  | cons branch rest =>
    cases h
    exact passesVia_foldl_or read r branch rest

theorem acceptsVia_joinConditions {conditions : List (Connector × Filter)}
    (hne : conditions ≠ []) :
    acceptsVia read (joinConditions none none conditions) r =
      (groups conditions).anyM fun group => group.allM (passesVia read r) := by
  cases hjoined : joinConditions none none conditions with
  | none =>
    cases conditions with
    | nil => exact absurd rfl hne
    | cons next rest =>
      have hsome := isSome_joinConditions none next.2 rest
      rw [show joinConditions none (some next.2) rest = none from hjoined] at hsome
      cases hsome
  | some f =>
    rw [joinConditions_none] at hjoined
    rw [← anyM_conjunctions read r (nil_notMem_groups conditions)]
    exact passesVia_joinAll_or read r hjoined

end

/-! ## Where an error comes from -/

/-- An item that is asked when the list is asked from left to right for as long as the answer
is `b`. -/
def Reached {ε α : Type} (p : α → Except ε Bool) (b : Bool) (l : List α) (x : α) : Prop :=
  ∃ before after, l = before ++ x :: after ∧ ∀ y ∈ before, p y = .ok b

section

variable {ε α : Type} {b : Bool} {x y : α} {l : List α}

theorem not_reached_nil {p : α → Except ε Bool} : ¬Reached p b [] x := by
  rintro ⟨before, after, h, -⟩
  simp at h

theorem reached_cons {p : α → Except ε Bool} :
    Reached p b (y :: l) x ↔ x = y ∨ p y = .ok b ∧ Reached p b l x := by
  constructor
  · rintro ⟨before, after, h, hbefore⟩
    cases before with
    | nil => exact .inl (List.cons.inj h).1.symm
    | cons z before =>
      obtain ⟨rfl, rfl⟩ := List.cons.inj h
      obtain ⟨hy, hbefore⟩ := List.forall_mem_cons.mp hbefore
      exact .inr ⟨hy, before, after, rfl, hbefore⟩
  · rintro (rfl | ⟨hy, before, after, rfl, hbefore⟩)
    · exact ⟨[], l, rfl, by simp⟩
    · exact ⟨y :: before, after, rfl, List.forall_mem_cons.mpr ⟨hy, hbefore⟩⟩

variable {p : α → ExceptT ε Id Bool} {e : ε}

theorem allM_run_cons : ((y :: l).allM p).run = match (p y).run with
    | .error e => .error e
    | .ok true => (l.allM p).run
    | .ok false => .ok false := by
  rw [List.allM, ExceptT.run_bind]
  generalize (p y).run = answer
  obtain e | b := answer
  · rfl
  · cases b <;> rfl

theorem anyM_run_cons : ((y :: l).anyM p).run = match (p y).run with
    | .error e => .error e
    | .ok true => .ok true
    | .ok false => (l.anyM p).run := by
  rw [List.anyM, ExceptT.run_bind]
  generalize (p y).run = answer
  obtain e | b := answer
  · rfl
  · cases b <;> rfl

theorem allM_run_eq_error_iff :
    (l.allM p).run = .error e ↔
      ∃ x, Reached (fun x => (p x).run) true l x ∧ (p x).run = .error e := by
  induction l with
  | nil => simp [List.allM, not_reached_nil, pure, ExceptT.run, ExceptT.pure, ExceptT.mk]
  | cons y l ih =>
    simp only [reached_cons, allM_run_cons, or_and_right, exists_or, exists_eq_left, and_assoc]
    match (p y).run with
    | .error e' => simp
    | .ok true => simp [ih]
    | .ok false => simp

theorem anyM_run_eq_error_iff :
    (l.anyM p).run = .error e ↔
      ∃ x, Reached (fun x => (p x).run) false l x ∧ (p x).run = .error e := by
  induction l with
  | nil => simp [List.anyM, not_reached_nil, pure, ExceptT.run, ExceptT.pure, ExceptT.mk]
  | cons y l ih =>
    simp only [reached_cons, anyM_run_cons, or_and_right, exists_or, exists_eq_left, and_assoc]
    match (p y).run with
    | .error e' => simp
    | .ok true => simp
    | .ok false => simp [ih]

end

end RecordQuery.Filter
