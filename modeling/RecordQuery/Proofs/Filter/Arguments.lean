import RecordQuery.Proofs.Filter.Assembly
import RecordQuery.Proofs.Filter.Conditions

/-!
# Where arguments go

An assembled filter has the leaves of its clauses from left to right. Each clause has taken the
arguments behind those of the clauses before it, so that the leaves together hold the arguments in
order, each once. What stands behind the last argument taken does not matter.
-/

namespace RecordQuery

/-! ## Slices -/

theorem Clause.arity_cons (c : Clause) (rest : List Clause) :
    arity (c :: rest) = c.operator.arity + arity rest := rfl

theorem Clause.arity_take_le {clauses : List Clause} {i : Nat} {c : Clause}
    (h : clauses[i]? = some c) : arity (clauses.take i) + c.operator.arity ≤ arity clauses := by
  induction clauses generalizing i with
  | nil => cases h
  | cons first rest ih =>
    cases i with
    | zero =>
      cases h
      rw [List.take_zero, arity_cons]
      show 0 + _ ≤ _
      omega
    | succ i =>
      have hlater := ih h
      rw [List.take_succ_cons, arity_cons, arity_cons]
      omega

/-- The arguments of a clause stand behind those of all clauses before it. -/
theorem Clause.getElem?_withArguments (clauses : List Clause) (args : List Argument) (i : Nat) :
    (withArguments clauses args)[i]? =
      clauses[i]?.map fun c => (c, (args.drop (arity (clauses.take i))).take c.operator.arity) := by
  induction clauses generalizing args i with
  | nil => rfl
  | cons c rest ih =>
    cases i with
    | zero => rfl
    | succ i =>
      rw [withArguments, List.getElem?_cons_succ, List.getElem?_cons_succ, List.take_succ_cons,
        arity_cons, ih, List.drop_drop]

theorem Clause.flatMap_withArguments (clauses : List Clause) (args : List Argument) :
    (withArguments clauses args).flatMap Prod.snd = args.take (arity clauses) := by
  induction clauses generalizing args with
  | nil => rfl
  | cons c rest ih => rw [withArguments, List.flatMap_cons, ih, arity_cons, List.take_add]

namespace Filter

/-- The leaves that a clause has by itself. -/
def headingsOf (part : Clause × List Argument) : List Leaf.Heading :=
  headings part.1.property part.1.operator part.1.ignoreCase part.2

theorem flatMap_arguments_headingsOf (parts : List (Clause × List Argument)) :
    (parts.flatMap headingsOf).flatMap Leaf.Heading.arguments = parts.flatMap Prod.snd := by
  rw [List.flatMap_assoc]
  congr 1
  funext part
  exact flatMap_arguments_headings _ _ _ _

/-! ## Leaves -/

def leavesOf (f : Option Filter) : List Leaf := f.elim [] leaves

theorem leaves_joinOr (branches : Option Filter) (next : Filter) :
    (joinOr branches next).leaves = leavesOf branches ++ next.leaves := by
  cases branches <;> rfl

theorem leavesOf_joinConditions (branches group : Option Filter)
    (conditions : List (Connector × Filter)) :
    leavesOf (joinConditions branches group conditions) =
      leavesOf branches ++ leavesOf group ++ conditions.flatMap fun c => c.2.leaves := by
  induction conditions generalizing branches group with
  | nil =>
    rw [List.flatMap_nil, List.append_nil]
    cases group with
    | none => exact (List.append_nil _).symm
    | some group => exact leaves_joinOr branches group
  | cons next rest ih =>
    obtain ⟨connector, c⟩ := next
    rw [List.flatMap_cons]
    cases group with
    | none =>
      rw [joinConditions, ih]
      simp [leavesOf]
    | some group =>
      cases connector with
      | and =>
        rw [joinConditions, ih]
        simp [leavesOf, leaves]
      | or =>
        rw [joinConditions, ih]
        simp [leavesOf, leaves_joinOr]

/-- The conditions of clauses have the leaves of the clauses, from arguments that suffice. -/
theorem headings_of_conditionsOf [Regex.Library] {clauses : List Clause} {args : List Argument}
    {g g' : PathRegistry} {conditions : List Filter}
    (h : (conditionsOf clauses args).run.run g = (.ok conditions, g')) :
    conditions.length = clauses.length ∧ Clause.arity clauses ≤ args.length ∧
      (conditions.flatMap leaves).map Leaf.heading =
        (Clause.withArguments clauses args).flatMap headingsOf := by
  induction clauses generalizing args g conditions with
  | nil =>
    cases h
    exact ⟨rfl, Nat.zero_le _, rfl⟩
  | cons c rest ih =>
    obtain ⟨shared, g₁, condition, later, hintern, hbuilt, hrest, rfl⟩ := conditionsOf_run_cons_ok h
    obtain ⟨hlength, hlater, hheadings⟩ := ih hrest
    obtain ⟨henough, hown⟩ := headings_of_build shared hbuilt
    have hproperty : shared.dotted = c.property :=
      PathRegistry.dotted_of_find? (PathRegistry.extends_of_intern hintern).2
    refine ⟨congrArg Nat.succ hlength, ?_, ?_⟩
    · rw [List.length_drop] at hlater
      rw [Clause.arity_cons]
      omega
    · rw [List.flatMap_cons, List.map_append, hown, hheadings, Clause.withArguments,
        List.flatMap_cons, hproperty]
      rfl

theorem flatMap_connected {clauses : List Clause} {conditions : List Filter}
    (h : conditions.length = clauses.length) :
    (connected clauses conditions).flatMap (fun c => c.2.leaves) = conditions.flatMap leaves := by
  have hsnd : (connected clauses conditions).map Prod.snd = conditions :=
    List.map_snd_zip (by rw [List.length_map]; omega)
  rw [← List.flatMap_map, hsnd]

/-! ## Arguments behind the last one taken -/

theorem build_append [Regex.Library] {p : SharedPath} {op : Operator} {ignoreCase : Bool}
    {args : List Argument} {f : Filter} (h : build p op ignoreCase args = .ok f)
    (more : List Argument) : build p op ignoreCase (args ++ more) = .ok f := by
  have henough : op.arity ≤ args.length := (headings_of_build p h).1
  rw [← build_take, List.take_append_of_le_length henough, build_take]
  exact h

theorem conditionsOf_append [Regex.Library] {clauses : List Clause} {args : List Argument}
    {g g' : PathRegistry} {conditions : List Filter}
    (h : (conditionsOf clauses args).run.run g = (.ok conditions, g')) (more : List Argument) :
    (conditionsOf clauses (args ++ more)).run.run g = (.ok conditions, g') := by
  induction clauses generalizing args g conditions with
  | nil => exact h
  | cons c rest ih =>
    obtain ⟨shared, g₁, condition, later, hintern, hbuilt, hrest, rfl⟩ := conditionsOf_run_cons_ok h
    have henough : c.operator.arity ≤ args.length := (headings_of_build shared hbuilt).1
    have hlater := ih hrest
    rw [← List.drop_append_of_le_length henough] at hlater
    rw [conditionsOf_run_cons, hintern]
    dsimp only
    rw [build_append hbuilt more]
    dsimp only
    rw [hlater]
    rfl

/-- An assembled filter has the leaves of the clauses in their order, and these hold the first
arguments in order, as many as the clauses take. -/
theorem assemble_consumes_in_order [Regex.Library] {clauses : List Clause} {args : List Argument}
    {g g' : PathRegistry} {f : Option Filter}
    (h : (assemble clauses args).run.run g = (.ok f, g')) :
    (leavesOf f).map Leaf.heading = (Clause.withArguments clauses args).flatMap headingsOf ∧
    (∀ i, (Clause.withArguments clauses args)[i]? = clauses[i]?.map fun c =>
      (c, (args.drop (Clause.arity (clauses.take i))).take c.operator.arity)) ∧
    Clause.arity clauses ≤ args.length ∧
    (leavesOf f).flatMap Leaf.arguments = args.take (Clause.arity clauses) ∧
    ∀ more, (assemble clauses (args ++ more)).run.run g = (.ok f, g') := by
  obtain ⟨conditions, hconditions, rfl⟩ := conditionsOf_of_assemble h
  obtain ⟨hlength, henough, hheadings⟩ := headings_of_conditionsOf hconditions
  have hleaves : leavesOf (joinConditions none none (connected clauses conditions)) =
      conditions.flatMap leaves := by
    rw [leavesOf_joinConditions, flatMap_connected hlength]
    rfl
  rw [hleaves]
  refine ⟨hheadings, Clause.getElem?_withArguments clauses args, henough, ?_, fun more => ?_⟩
  · calc (conditions.flatMap leaves).flatMap Leaf.arguments
      _ = ((conditions.flatMap leaves).map Leaf.heading).flatMap Leaf.Heading.arguments := by
        rw [List.flatMap_map]
        rfl
      _ = (Clause.withArguments clauses args).flatMap Prod.snd := by
        rw [hheadings, flatMap_arguments_headingsOf]
      _ = args.take (Clause.arity clauses) := Clause.flatMap_withArguments clauses args
  · rw [assemble_run, conditionsOf_append hconditions more]
    rfl

/-- An interval, an operator without arguments and one in another group. -/
theorem assemble_consumes_in_order_interval :
    let clauses : List Clause := [⟨.or, "n", .between, false⟩, ⟨.and, "a", .isTrue, true⟩,
      ⟨.or, "s", .endsWith, true⟩]
    let one : Argument := .number (.signed 1)
    let five : Argument := .number (.unsigned 5)
    let args : List Argument := [one, five, .string "ED", .null]
    let ran := (assemble clauses args).run.run .empty
    ∃ f, ran.1 = .ok f ∧
      (leavesOf f).map Leaf.heading = [⟨"n", .greaterThan, false, [one]⟩,
        ⟨"n", .lessThan, false, [five]⟩, ⟨"a", .isTrue, true, []⟩,
        ⟨"s", .endsWith, true, [.string "ED"]⟩] ∧
      (leavesOf f).flatMap Leaf.arguments = [one, five, .string "ED"] ∧
      ((assemble clauses (args ++ [one])).run.run .empty).1 = .ok f := by
  intro clauses one five args ran
  obtain ⟨f, g', hrun⟩ : ∃ f g', ran = (.ok f, g') := ⟨_, _, by cbv⟩
  obtain ⟨hheadings, -, -, harguments, hmore⟩ := assemble_consumes_in_order hrun
  exact ⟨f, congrArg Prod.fst hrun, hheadings, harguments, congrArg Prod.fst (hmore [one])⟩

end Filter

end RecordQuery
