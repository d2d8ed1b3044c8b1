import RecordQuery.Proofs.Filter.Arguments
import RecordQuery.Proofs.Path.Growth

/-!
# Where assembling stops

Assembling stops at the first clause that something is wrong with, and says what it is: the path, or
else the operator, or else the number of arguments left, or else the pattern. Up to there, and at
this clause if its path is one, every path asked for is registered.
-/

namespace RecordQuery

namespace Clause

variable [Regex.Library]

/-- What is wrong with a clause when these arguments are left: the path, or else the condition. -/
inductive Fault (c : Clause) (left : List Argument) : QueryError → Prop where
  | path (hpath : ¬IsPath c.property) : Fault c left (.invalidPath c.property)
  | condition {e : QueryError} (hpath : IsPath c.property)
    (h : Filter.Fault c.operator c.ignoreCase left e) : Fault c left e

/-- What is wrong with the clause at a place, with the arguments left by those before it. -/
def FaultAt (clauses : List Clause) (args : List Argument) (i : Nat) (e : QueryError) : Prop :=
  ∃ c, clauses[i]? = some c ∧ c.Fault (args.drop (arity (clauses.take i))) e

/-- Nothing is wrong with the clauses before a place. -/
def ClearTo (clauses : List Clause) (args : List Argument) (i : Nat) : Prop :=
  ∀ j < i, ∀ e, ¬FaultAt clauses args j e

variable {c : Clause} {rest clauses : List Clause} {args : List Argument} {i : Nat} {e : QueryError}

theorem faultAt_zero : FaultAt (c :: rest) args 0 e ↔ c.Fault args e := by
  simp [FaultAt, arity]

theorem faultAt_succ :
    FaultAt (c :: rest) args (i + 1) e ↔ FaultAt rest (args.drop c.operator.arity) i e := by
  simp only [FaultAt, List.getElem?_cons_succ, List.take_succ_cons, arity_cons, List.drop_drop]

theorem not_faultAt_nil : ¬FaultAt [] args i e := by
  simp [FaultAt]

theorem clearTo_zero : ClearTo clauses args 0 := fun _ hj => absurd hj (Nat.not_lt_zero _)

theorem clearTo_succ :
    ClearTo (c :: rest) args (i + 1) ↔
      (∀ e, ¬c.Fault args e) ∧ ClearTo rest (args.drop c.operator.arity) i := by
  unfold ClearTo
  rw [Nat.forall_lt_succ_left]
  simp only [faultAt_zero, faultAt_succ]

theorem exists_first_fault (h : FaultAt clauses args i e) :
    ∃ j e', ClearTo clauses args j ∧ FaultAt clauses args j e' := by
  classical
  have hfound : ∃ j, ∃ e', FaultAt clauses args j e' := ⟨i, e, h⟩
  obtain ⟨e', he'⟩ := Nat.find_spec hfound
  exact ⟨Nat.find hfound, e', fun j hj e'' he'' => Nat.find_min hfound hj ⟨e'', he''⟩, he'⟩

theorem fault_iff (hpath : IsPath c.property) :
    c.Fault args e ↔ Filter.Fault c.operator c.ignoreCase args e := by
  constructor
  · rintro (hinvalid | ⟨-, h⟩)
    · exact absurd hpath hinvalid
    · exact h
  · exact .condition hpath

/-! ## Arguments before a fault -/

theorem ClearTo.arity_le (h : ClearTo clauses args i) : arity (clauses.take i) ≤ args.length := by
  induction clauses generalizing args i with
  | nil =>
    rw [List.take_nil]
    exact Nat.zero_le _
  | cons c rest ih =>
    cases i with
    | zero => exact Nat.zero_le _
    | succ i =>
      obtain ⟨hclear, hrest⟩ := clearTo_succ.mp h
      have hpath : IsPath c.property := by
        by_contra hinvalid
        exact hclear _ (.path hinvalid)
      have hown : c.operator.arity ≤ args.length :=
        Filter.arity_le_of_no_fault fun e he => hclear e (.condition hpath he)
      have hlater := ih hrest
      rw [List.length_drop] at hlater
      rw [List.take_succ_cons, arity_cons]
      omega

/-- A first fault in the number of arguments counts what the clauses before have left. -/
theorem FaultAt.missingArgument {op : Operator} {expected supplied : Nat}
    (h : FaultAt clauses args i (.missingArgument op expected supplied))
    (hclear : ClearTo clauses args i) :
    ∃ c, clauses[i]? = some c ∧ op = c.operator ∧ expected = op.arity ∧ supplied < expected ∧
      arity (clauses.take i) + supplied = args.length := by
  obtain ⟨c, hc, hfault⟩ := h
  have hbefore := hclear.arity_le
  cases hfault with
  | condition _ hfault =>
    cases hfault with
    | arguments _ hfew =>
      refine ⟨c, hc, rfl, rfl, hfew, ?_⟩
      rw [List.length_drop]
      omega

/-! ## Texts that are asked for -/

/-- A text that the registry is asked for, and gives a path for: the property of a clause with none
at fault before it. -/
def Asked (clauses : List Clause) (args : List Argument) (text : String) : Prop :=
  ∃ i c, clauses[i]? = some c ∧ ClearTo clauses args i ∧ text = c.property ∧ IsPath text

theorem not_asked_nil {text : String} : ¬Asked [] args text := by
  simp [Asked]

theorem asked_cons {text : String} :
    Asked (c :: rest) args text ↔
      (text = c.property ∧ IsPath c.property) ∨
        (∀ e, ¬c.Fault args e) ∧ Asked rest (args.drop c.operator.arity) text := by
  unfold Asked
  rw [← Nat.or_exists_add_one]
  refine or_congr ?_ ?_
  · constructor
    · rintro ⟨d, hd, -, rfl, hpath⟩
      cases hd
      exact ⟨rfl, hpath⟩
    · rintro ⟨rfl, hpath⟩
      exact ⟨c, rfl, clearTo_zero, rfl, hpath⟩
  · simp only [clearTo_succ, List.getElem?_cons_succ]
    constructor
    · rintro ⟨i, d, hd, ⟨hclear, hrest⟩, hasked⟩
      exact ⟨hclear, i, d, hd, hrest, hasked⟩
    · rintro ⟨hclear, i, d, hd, hrest, hasked⟩
      exact ⟨i, d, hd, ⟨hclear, hrest⟩, hasked⟩

theorem ClearTo.isPath (h : ClearTo clauses args (i + 1)) (hc : clauses[i]? = some c) :
    IsPath c.property := by
  by_contra hinvalid
  exact h i (Nat.lt_succ_self i) _ ⟨c, hc, .path hinvalid⟩

theorem asked_of_clear (h : ∀ i, ClearTo clauses args i) {text : String} :
    Asked clauses args text ↔ text ∈ clauses.map property := by
  rw [List.mem_map]
  constructor
  · rintro ⟨i, c, hc, -, rfl, -⟩
    exact ⟨c, List.mem_of_getElem? hc, rfl⟩
  · rintro ⟨c, hmem, rfl⟩
    obtain ⟨i, hc⟩ := List.mem_iff_getElem?.mp hmem
    exact ⟨i, c, hc, h i, rfl, (h (i + 1)).isPath hc⟩

theorem asked_of_first_fault (hclear : ClearTo clauses args i) (h : FaultAt clauses args i e)
    {text : String} :
    Asked clauses args text ↔ text ∈ (clauses.take (i + 1)).map property ∧ IsPath text := by
  rw [List.mem_map]
  constructor
  · rintro ⟨j, c, hc, hclear', rfl, hpath⟩
    -- clauses behind the fault are not clear of it
    have hj : j < i + 1 := by
      by_contra hlate
      exact hclear' i (by omega) e h
    refine ⟨⟨c, List.mem_iff_getElem?.mpr ⟨j, ?_⟩, rfl⟩, hpath⟩
    rw [List.getElem?_take_of_lt hj, hc]
  · rintro ⟨⟨c, hmem, rfl⟩, hpath⟩
    obtain ⟨j, hc⟩ := List.mem_iff_getElem?.mp hmem
    obtain ⟨hj, -⟩ := List.getElem?_eq_some_iff.mp hc
    rw [List.length_take] at hj
    rw [List.getElem?_take_of_lt (by omega)] at hc
    exact ⟨j, c, hc, fun k hk => hclear k (by omega), rfl, hpath⟩

end Clause

namespace Filter

open Clause PathRegistry

section

variable [Regex.Library]

/-! ## Up to the first fault -/

/-- Making conditions stops at the first clause if that has a fault, and goes on otherwise. The path
of the clause is registered in any case, if it is one. -/
theorem conditionsOf_run_cons_cases (c : Clause) (rest : List Clause) (args : List Argument)
    (g : PathRegistry) :
    let ran := (conditionsOf (c :: rest) args).run.run g
    let asked := fun text => text = c.property ∧ IsPath c.property
    (∃ e, (∀ e', c.Fault args e' ↔ e' = e) ∧ ran.1 = .error e ∧ Grows asked g ran.2) ∨
    ∃ g₁ condition, (∀ e, ¬c.Fault args e) ∧ Grows asked g g₁ ∧
      ran.1 = ((conditionsOf rest (args.drop c.operator.arity)).run.run g₁).1.map (condition :: ·) ∧
      ran.2 = ((conditionsOf rest (args.drop c.operator.arity)).run.run g₁).2 := by
  intro ran asked
  have hgrows : Grows asked g _ := intern_grows c.property g
  have hran : ran = _ := conditionsOf_run_cons c rest args g
  rw [hran]
  have hresult := intern_result c.property g
  generalize (intern c.property).run.run g = interned at hgrows hresult ⊢
  obtain ⟨result, g₁⟩ := interned
  rcases hresult with ⟨shared, rfl, hpath⟩ | ⟨rfl, hinvalid⟩
  · dsimp only
    cases hbuild : build shared c.operator c.ignoreCase args with
    | error e =>
      refine .inl ⟨e, fun e' => ?_, rfl, hgrows⟩
      rw [fault_iff hpath, ← build_eq_error_iff shared, hbuild]
      exact ⟨fun h => (Except.error.inj h).symm, fun h => congrArg Except.error h.symm⟩
    | ok condition =>
      refine .inr ⟨g₁, condition, fun e hfault => ?_, hgrows, rfl, rfl⟩
      rw [fault_iff hpath, ← build_eq_error_iff shared, hbuild] at hfault
      cases hfault
  · refine .inl ⟨_, fun e' => ⟨fun h => ?_, ?_⟩, rfl, hgrows⟩
    · cases h with
      | path => rfl
      | condition hpath => exact absurd hpath hinvalid
    · rintro rfl
      exact .path hinvalid

theorem conditionsOf_eq_error_iff (clauses : List Clause) (args : List Argument)
    (g : PathRegistry) (e : QueryError) :
    ((conditionsOf clauses args).run.run g).1 = .error e ↔
      ∃ i, ClearTo clauses args i ∧ FaultAt clauses args i e := by
  induction clauses generalizing args g with
  | nil =>
    constructor
    · intro h
      cases h
    · rintro ⟨i, -, h⟩
      exact absurd h not_faultAt_nil
  | cons c rest ih =>
    -- the first fault is at the head, or in the tail if the head is clear
    rw [← Nat.or_exists_add_one]
    simp only [clearTo_succ, faultAt_zero, faultAt_succ]
    rcases conditionsOf_run_cons_cases c rest args g with
      ⟨e₀, hfault, hresult, -⟩ | ⟨g₁, condition, hclear, -, hresult, -⟩
    · rw [hresult, hfault]
      constructor
      · intro h
        exact .inl ⟨clearTo_zero, (Except.error.inj h).symm⟩
      · rintro (⟨-, rfl⟩ | ⟨i, ⟨hclear, -⟩, -⟩)
        · rfl
        · exact absurd ((hfault e₀).mpr rfl) (hclear e₀)
    · rw [hresult]
      have hlater := ih (args.drop c.operator.arity) g₁
      generalize ((conditionsOf rest _).run.run g₁).1 = later at hlater ⊢
      constructor
      · intro h
        have herror : later = .error e := by
          cases later with
          | error e' => exact h
          | ok conditions => cases h
        obtain ⟨i, hrest, hfault⟩ := hlater.mp herror
        exact .inr ⟨i, ⟨hclear, hrest⟩, hfault⟩
      · rintro (⟨-, hfault⟩ | ⟨i, ⟨-, hrest⟩, hfault⟩)
        · exact absurd hfault (hclear e)
        · rw [hlater.mpr ⟨i, hrest, hfault⟩]
          rfl

theorem conditionsOf_grows (clauses : List Clause) (args : List Argument) (g : PathRegistry) :
    Grows (Asked clauses args) g ((conditionsOf clauses args).run.run g).2 := by
  induction clauses generalizing args g with
  | nil => exact Grows.of_known fun _ h => absurd h not_asked_nil
  | cons c rest ih =>
    rcases conditionsOf_run_cons_cases c rest args g with
      ⟨e, hfault, -, hgrows⟩ | ⟨g₁, condition, hclear, hgrows, -, hlater⟩
    · -- the tail is not looked at, and nothing in it is asked for
      refine hgrows.congr fun text => ?_
      rw [asked_cons, or_iff_left]
      exact fun h => h.1 e ((hfault e).mpr rfl)
    · rw [hlater]
      refine (hgrows.trans (ih (args.drop c.operator.arity) g₁)).congr fun text => ?_
      rw [asked_cons, and_iff_right hclear]

theorem assemble_eq_error_iff (clauses : List Clause) (args : List Argument) (g : PathRegistry)
    (e : QueryError) :
    ((assemble clauses args).run.run g).1 = .error e ↔
      ∃ i, ClearTo clauses args i ∧ FaultAt clauses args i e := by
  rw [← conditionsOf_eq_error_iff clauses args g e, assemble_run]
  generalize (conditionsOf clauses args).run.run g = ran
  obtain ⟨_ | conditions, g'⟩ := ran <;> constructor <;> intro h <;> cases h <;> rfl

section

variable {clauses : List Clause} {args : List Argument} {g : PathRegistry}

theorem missingArgument_of_assemble {op : Operator} {expected supplied : Nat}
    (h : ((assemble clauses args).run.run g).1 = .error (.missingArgument op expected supplied)) :
    ∃ i c, ClearTo clauses args i ∧ clauses[i]? = some c ∧ op = c.operator ∧
      expected = op.arity ∧ supplied < expected ∧
      arity (clauses.take i) + supplied = args.length := by
  obtain ⟨i, hclear, hfault⟩ := (assemble_eq_error_iff clauses args g _).mp h
  obtain ⟨c, hc, hcounts⟩ := hfault.missingArgument hclear
  exact ⟨i, c, hclear, hc, hcounts⟩

theorem clear_of_assemble {f : Option Filter}
    (h : ((assemble clauses args).run.run g).1 = .ok f) (i : Nat) : ClearTo clauses args i := by
  intro j _ e hfault
  obtain ⟨k, e', hfirst⟩ := exists_first_fault hfault
  cases h.symm.trans ((assemble_eq_error_iff clauses args g e').mpr ⟨k, hfirst⟩)

end

/-- Assembling fails with what is wrong with the first clause at fault, and the registry gets paths
for the properties up to there. -/
theorem assemble_stops_at_first_fault (clauses : List Clause) (args : List Argument)
    (g : PathRegistry) :
    let ran := (assemble clauses args).run.run g
    ((∃ e, ran.1 = .error e) ↔ ∃ i e, FaultAt clauses args i e) ∧
    (∀ e, ran.1 = .error e ↔ ∃ i, ClearTo clauses args i ∧ FaultAt clauses args i e) ∧
    (∀ op expected supplied, ran.1 = .error (.missingArgument op expected supplied) →
      ∃ i c, ClearTo clauses args i ∧ clauses[i]? = some c ∧ op = c.operator ∧
        expected = op.arity ∧ supplied < expected ∧
        arity (clauses.take i) + supplied = args.length) ∧
    (arity clauses ≤ args.length →
      ∀ op expected supplied, ran.1 ≠ .error (.missingArgument op expected supplied)) ∧
    (∃ added, ran.2.paths = g.paths ++ added ∧ (added.map SharedPath.dotted).Nodup ∧
      (∀ f, ran.1 = .ok f → ∀ text,
        text ∈ added.map SharedPath.dotted ↔ text ∈ clauses.map property ∧ text ∉ g.texts) ∧
      (∀ i e, ClearTo clauses args i → FaultAt clauses args i e → ∀ text,
        text ∈ added.map SharedPath.dotted ↔
          (text ∈ (clauses.take (i + 1)).map property ∧ IsPath text) ∧ text ∉ g.texts)) ∧
    (g.texts.Nodup → ran.2.texts.Nodup) ∧
    ran.2.memory.objects = g.memory.objects := by
  intro ran
  have herror : ∀ e, ran.1 = .error e ↔ ∃ i, ClearTo clauses args i ∧ FaultAt clauses args i e :=
    assemble_eq_error_iff clauses args g
  have hgrows : Grows (Asked clauses args) g ran.2 := by
    show Grows _ g ((assemble clauses args).run.run g).2
    rw [assemble_run]
    exact conditionsOf_grows clauses args g
  refine ⟨?_, herror, fun op expected supplied => missingArgument_of_assemble, ?_, ?_,
    hgrows.nodup_texts, hgrows.objects⟩
  · constructor
    · rintro ⟨e, h⟩
      obtain ⟨i, -, hfault⟩ := (herror e).mp h
      exact ⟨i, e, hfault⟩
    · rintro ⟨i, e, hfault⟩
      obtain ⟨j, e', hfirst⟩ := exists_first_fault hfault
      exact ⟨e', (herror e').mpr ⟨j, hfirst⟩⟩
  · intro henough op expected supplied h
    obtain ⟨i, c, -, hc, rfl, rfl, hfew, hcount⟩ := missingArgument_of_assemble h
    have hown := arity_take_le hc
    omega
  · obtain ⟨added, hpaths, hnodup, hadded⟩ := hgrows.paths
    refine ⟨added, hpaths, hnodup, fun f hf text => ?_, fun i e hclear hfault text => ?_⟩
    · rw [hadded, asked_of_clear (clear_of_assemble hf)]
    · rw [hadded, asked_of_first_fault hclear hfault]

end

/-- An interval uses both arguments up, and the clause behind it is at fault. Its path is
registered, and the path of the clause after it is not. -/
theorem assemble_stops_at_first_fault_used_up :
    let clauses : List Clause := [⟨.or, "n", .between, false⟩, ⟨.and, "s", .endsWith, true⟩,
      ⟨.or, "a", .near, false⟩]
    let args : List Argument := [.number (.signed 1), .number (.unsigned 5)]
    let ran := (assemble clauses args).run.run .empty
    FaultAt clauses args 2 (.unsupportedOperator .near) ∧
      ran.1 = .error (.missingArgument .endsWith 1 0) ∧
      ∃ added, ran.2.paths = added ∧
        ∀ text, text ∈ added.map SharedPath.dotted ↔ text = "n" ∨ text = "s" := by
  intro clauses args ran
  obtain ⟨-, herror, -, -, ⟨added, hpaths, -, -, hadded⟩, -, -⟩ :=
    assemble_stops_at_first_fault clauses args .empty
  have hn : IsPath "n" := ⟨⟨"n", by decide⟩, by decide⟩
  have hs : IsPath "s" := ⟨⟨"s", by decide⟩, by decide⟩
  have ha : IsPath "a" := ⟨⟨"a", by decide⟩, by decide⟩
  have hclear : ClearTo clauses args 1 := by
    refine clearTo_succ.mpr ⟨fun e hfirst => ?_, clearTo_zero⟩
    cases (fault_iff hn).mp hfirst with
    | operator hop => cases hop
    | arguments _ hfew => exact absurd hfew (by decide)
    | pattern _ _ h => cases h.1
  have hfault : FaultAt clauses args 1 (.missingArgument .endsWith 1 0) :=
    ⟨_, rfl, .condition hs (.arguments rfl (by decide))⟩
  refine ⟨⟨_, rfl, .condition ha (.operator rfl)⟩, (herror _).mpr ⟨1, hclear, hfault⟩, added,
    hpaths, fun text => ?_⟩
  rw [hadded 1 _ hclear hfault]
  constructor
  · rintro ⟨⟨hmem, -⟩, -⟩
    simpa [clauses] using hmem
  · rintro (rfl | rfl)
    · exact ⟨⟨by simp [clauses], hn⟩, by decide⟩
    · exact ⟨⟨by simp [clauses], hs⟩, by decide⟩

end Filter

end RecordQuery
