import RecordQuery.Proofs.Filter.Groups
import RecordQuery.Proofs.Path.Growth
import RecordQuery.Regex.Standard

/-!
# Assembled filters

Assembling makes the condition of every clause, from the path object that the registry has for its
property and from the arguments of its own, and joins the conditions. A record passes the result
as the groups of conditions say.
-/

namespace RecordQuery

/-! ## Clauses by themselves -/

/-- Every clause with the arguments of its own. -/
def Clause.withArguments : List Clause → List Argument → List (Clause × List Argument)
  | [], _ => []
  | c :: rest, args =>
    (c, args.take c.operator.arity) :: withArguments rest (args.drop c.operator.arity)

/-- The condition that a clause states by itself, with the path object of a registry. -/
def Clause.condition [Regex.Library] (g : PathRegistry) (part : Clause × List Argument) :
    Except QueryError Filter :=
  match g.find? part.1.property with
  | some p => Filter.build p part.1.operator part.1.ignoreCase part.2
  | none => .error (.invalidPath part.1.property)

theorem Filter.build_take [Regex.Library] (p : SharedPath) (op : Operator) (ignoreCase : Bool)
    (args : List Argument) :
    build p op ignoreCase (args.take op.arity) = build p op ignoreCase args := by
  have hfew : (args.take op.arity).length < op.arity ↔ args.length < op.arity := by
    rw [List.length_take]
    omega
  unfold build
  rw [List.take_take, Nat.min_self]
  by_cases h : args.length < op.arity
  · rw [List.take_of_length_le (Nat.le_of_lt h)]
  · rw [if_neg (mt hfew.mp h), if_neg h]

namespace Filter

/-! ## Making conditions and joining them -/

section

variable [Regex.Library]

/-- The conditions of clauses, from the arguments that are left to each. -/
def conditionsOf : List Clause → List Argument → PathM (List Filter)
  | [], _ => return []
  | c :: rest, args => do
    let shared ← PathRegistry.intern c.property
    let condition ← build shared c.operator c.ignoreCase args
    let conditions ← conditionsOf rest (args.drop c.operator.arity)
    return condition :: conditions

/-- Conditions with the connectors of their clauses. -/
def connected (clauses : List Clause) (conditions : List Filter) : List (Connector × Filter) :=
  (clauses.map Clause.connector).zip conditions

theorem assembleFrom_eq (branches group : Option Filter) (clauses : List Clause)
    (args : List Argument) :
    assembleFrom branches group clauses args = do
      let conditions ← conditionsOf clauses args
      return joinConditions branches group (connected clauses conditions) := by
  induction clauses generalizing branches group args with
  | nil =>
    cases group <;> simp [assembleFrom, conditionsOf, connected, joinConditions]
  | cons c rest ih =>
    simp only [assembleFrom, conditionsOf, bind_assoc, pure_bind]
    refine bind_congr fun shared => bind_congr fun condition => ?_
    cases group with
    | none => exact ih _ _ _
    | some group =>
      simp only [connected, List.map_cons, List.zip_cons_cons]
      cases c.connector with
      | and => exact ih _ _ _
      | or => exact ih _ _ _

theorem conditionsOf_run_cons (c : Clause) (rest : List Clause) (args : List Argument)
    (g : PathRegistry) :
    (conditionsOf (c :: rest) args).run.run g =
      match (PathRegistry.intern c.property).run.run g with
      | (.error e, g₁) => (.error e, g₁)
      | (.ok shared, g₁) =>
        match build shared c.operator c.ignoreCase args with
        | .error e => (.error e, g₁)
        | .ok condition =>
          let ran := (conditionsOf rest (args.drop c.operator.arity)).run.run g₁
          (ran.1.map (condition :: ·), ran.2) := by
  rw [conditionsOf, ExceptT.run_bind, StateT.run_bind]
  generalize (PathRegistry.intern c.property).run.run g = ran
  obtain ⟨_ | shared, g₁⟩ := ran
  · rfl
  show StateT.run (ExceptT.run (liftM (build shared c.operator c.ignoreCase args) >>=
    fun condition => conditionsOf rest (args.drop c.operator.arity) >>=
      fun later => pure (condition :: later))) g₁ = _
  dsimp only
  generalize build shared c.operator c.ignoreCase args = built
  cases built with
  | error e => rfl
  | ok condition =>
    show StateT.run (ExceptT.run (conditionsOf rest (args.drop c.operator.arity) >>=
      fun later => pure (condition :: later))) g₁ = _
    rw [ExceptT.run_bind, StateT.run_bind]
    dsimp only
    generalize (conditionsOf rest (args.drop c.operator.arity)).run.run g₁ = ran
    obtain ⟨_ | later, g₂⟩ := ran <;> rfl

theorem conditionsOf_run_cons_ok {c : Clause} {rest : List Clause} {args : List Argument}
    {g g' : PathRegistry} {conditions : List Filter}
    (h : (conditionsOf (c :: rest) args).run.run g = (.ok conditions, g')) :
    ∃ shared g₁ condition later,
      (PathRegistry.intern c.property).run.run g = (.ok shared, g₁) ∧
      build shared c.operator c.ignoreCase args = .ok condition ∧
      (conditionsOf rest (args.drop c.operator.arity)).run.run g₁ = (.ok later, g') ∧
      conditions = condition :: later := by
  rw [conditionsOf_run_cons] at h
  cases hintern : (PathRegistry.intern c.property).run.run g with
  | mk result g₁ =>
    rw [hintern] at h
    cases result with
    | error e => cases h
    | ok shared =>
      dsimp only at h
      cases hbuild : build shared c.operator c.ignoreCase args with
      | error e => rw [hbuild] at h; cases h
      | ok condition =>
        rw [hbuild] at h
        dsimp only at h
        cases hrest : (conditionsOf rest (args.drop c.operator.arity)).run.run g₁ with
        | mk later g₂ =>
          rw [hrest] at h
          cases later with
          | error e => cases h
          | ok later =>
            cases h
            exact ⟨shared, g₁, condition, later, rfl, hbuild, hrest, rfl⟩

/-- Every condition is the one that its clause states by itself. -/
theorem conditions_of_conditionsOf {clauses : List Clause} {args : List Argument}
    {g g' : PathRegistry} {conditions : List Filter}
    (h : (conditionsOf clauses args).run.run g = (.ok conditions, g')) :
    g.Extends g' ∧
      (Clause.withArguments clauses args).mapM (Clause.condition g') = .ok conditions := by
  induction clauses generalizing args g conditions with
  | nil =>
    cases h
    exact ⟨.refl _, rfl⟩
  | cons c rest ih =>
    obtain ⟨shared, g₁, condition, later, hintern, hbuilt, hrest, rfl⟩ := conditionsOf_run_cons_ok h
    obtain ⟨hextends, hlater⟩ := ih hrest
    obtain ⟨hfirst, hfind⟩ := PathRegistry.extends_of_intern hintern
    have hown : Clause.condition g' (c, args.take c.operator.arity) = .ok condition := by
      unfold Clause.condition
      rw [hextends _ _ hfind]
      exact (build_take _ _ _ _).trans hbuilt
    refine ⟨hfirst.trans hextends, ?_⟩
    rw [Clause.withArguments, List.mapM_cons, hown, hlater]
    rfl

theorem assemble_run (clauses : List Clause) (args : List Argument) (g : PathRegistry) :
    (assemble clauses args).run.run g =
      let ran := (conditionsOf clauses args).run.run g
      (ran.1.map fun conditions => joinConditions none none (connected clauses conditions),
        ran.2) := by
  rw [assemble, assembleFrom_eq, ExceptT.run_bind, StateT.run_bind]
  generalize (conditionsOf clauses args).run.run g = ran
  obtain ⟨_ | conditions, g'⟩ := ran <;> rfl

theorem conditionsOf_of_assemble {clauses : List Clause} {args : List Argument}
    {g g' : PathRegistry} {f : Option Filter}
    (h : (assemble clauses args).run.run g = (.ok f, g')) :
    ∃ conditions, (conditionsOf clauses args).run.run g = (.ok conditions, g') ∧
      f = joinConditions none none (connected clauses conditions) := by
  rw [assemble_run] at h
  generalize (conditionsOf clauses args).run.run g = ran at h ⊢
  obtain ⟨_ | conditions, g₁⟩ := ran
  · cases h
  · cases h
    exact ⟨conditions, rfl, rfl⟩

theorem assemble_run_ok {clauses : List Clause} {args : List Argument} {g g' : PathRegistry}
    {f : Option Filter} (h : (assemble clauses args).run.run g = (.ok f, g')) :
    ∃ conditions,
      (Clause.withArguments clauses args).mapM (Clause.condition g') = .ok conditions ∧
        f = joinConditions none none (connected clauses conditions) := by
  obtain ⟨conditions, hconditions, rfl⟩ := conditionsOf_of_assemble h
  exact ⟨conditions, (conditions_of_conditionsOf hconditions).2, rfl⟩

theorem connected_ne_nil {g : PathRegistry} {clauses : List Clause} {args : List Argument}
    {conditions : List Filter} (hne : clauses ≠ [])
    (h : (Clause.withArguments clauses args).mapM (Clause.condition g) = .ok conditions) :
    connected clauses conditions ≠ [] := by
  cases clauses with
  | nil => exact absurd rfl hne
  | cons c rest =>
    cases conditions with
    | cons condition later => simp [connected]
    | nil =>
      rw [Clause.withArguments, List.mapM_cons] at h
      generalize Clause.condition g _ = first at h
      generalize List.mapM (Clause.condition g) _ = later at h
      cases first <;> cases later <;> cases h

/-- A record passes an assembled filter as the groups of its clauses' own conditions say. -/
theorem assemble_passes_by_groups {clauses : List Clause} {args : List Argument}
    {g g' : PathRegistry} {f : Option Filter}
    (h : (assemble clauses args).run.run g = (.ok f, g')) :
    ∃ conditions,
      (Clause.withArguments clauses args).mapM (Clause.condition g') = .ok conditions ∧
      (clauses = [] → f = none ∧ ∀ r, accepts f r = .ok true) ∧
      (clauses ≠ [] →
        let groups := groups ((clauses.map Clause.connector).zip conditions)
        (∀ (m : Type → Type) [Monad m] [LawfulMonad m] (read : PathReader m) (r : Record),
          acceptsVia read f r = groups.anyM fun group => group.allM (passesVia read r)) ∧
        ∀ r e, accepts f r = .error e ↔
          ∃ group, Reached (fun group => (group.allM (passesVia .plain r)).run) false groups group ∧
            ∃ c, Reached (fun c => c.passes r) true group c ∧ c.passes r = .error e) := by
  obtain ⟨conditions, hconditions, rfl⟩ := assemble_run_ok h
  refine ⟨conditions, hconditions, ?_, ?_⟩
  · rintro rfl
    exact ⟨rfl, fun _ => rfl⟩
  · intro hne groups
    have hpasses (m : Type → Type) [Monad m] [LawfulMonad m] (read : PathReader m) (r : Record) :=
      acceptsVia_joinConditions read r (connected_ne_nil hne hconditions)
    refine ⟨fun m _ _ => hpasses m, fun r e => ?_⟩
    have hplain := congrArg ExceptT.run (hpasses Id .plain r)
    change accepts _ r = _ at hplain
    rw [hplain, anyM_run_eq_error_iff]
    refine exists_congr fun group => and_congr_right fun _ => ?_
    exact allM_run_eq_error_iff

end

/-- The group that is true hides the error behind it; the group that is false lets it out. -/
theorem assemble_passes_by_groups_error :
    let clauses : List Clause := [⟨.or, "a", .isTrue, false⟩, ⟨.and, "n", .between, false⟩,
      ⟨.or, "s", .greaterThan, false⟩]
    let one : Argument := .number (.signed 1)
    let five : Argument := .number (.unsigned 5)
    let args : List Argument := [one, five, .string "x", one]
    let a : SharedPath := ⟨1, ⟨"a", by decide⟩⟩
    let n : SharedPath := ⟨2, ⟨"n", by decide⟩⟩
    let s : SharedPath := ⟨3, ⟨"s", by decide⟩⟩
    let first := leaf ⟨a, .isTrue, false, [], .isBool true⟩
    let second := and (leaf ⟨n, .greaterThan, false, [one], .ordered .greaterThan one⟩)
      (leaf ⟨n, .lessThan, false, [five], .ordered .lessThan five⟩)
    let third := leaf ⟨s, .greaterThan, false, [.string "x"], .ordered .greaterThan (.string "x")⟩
    let record (a : Bool) (n : Value) : Record := ⟨⟨0, "T", ["a", "n", "s"]⟩, [.bool a, n, .bool a]⟩
    let f := or (and first second) third
    (assemble clauses args).run.run .empty = (.ok (some f), ⟨[a, n, s], ⟨[], 4⟩⟩) ∧
      accepts f (record true (.number (.signed 3))) = .ok true ∧
      accepts f (record false (.string "z")) = .error (.incomparable .bool .string) := by
  intro clauses one five args a n s first second third record f
  have hrun : (assemble clauses args).run.run .empty = (.ok (some f), ⟨[a, n, s], ⟨[], 4⟩⟩) := by
    cbv
  obtain ⟨conditions, hconditions, -, hpasses⟩ := assemble_passes_by_groups hrun
  have hown : (Clause.withArguments clauses args).mapM (Clause.condition ⟨[a, n, s], ⟨[], 4⟩⟩) =
      .ok [first, second, third] := by cbv
  cases hown.symm.trans hconditions
  obtain ⟨hpasses, herror⟩ := hpasses (by simp [clauses])
  refine ⟨hrun, (hpasses Id .plain _).trans (by cbv), (herror _ _).mpr ?_⟩
  -- the first group is false at its first condition, so the second one is reached
  have hfalse : ([first, second].allM
      (passesVia .plain (record false (.string "z")))).run = .ok false := by cbv
  refine ⟨[third], ⟨[[first, second]], [], rfl, List.forall_mem_singleton.mpr hfalse⟩, third, ?_⟩
  exact ⟨⟨[], [], rfl, by simp⟩, by cbv⟩

end Filter

end RecordQuery
