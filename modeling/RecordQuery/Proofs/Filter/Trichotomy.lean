import RecordQuery.Proofs.Filter.Answer
import RecordQuery.Proofs.Order.Sortable
import RecordQuery.Regex.Standard

/-!
# Below, equal or above

The operators of ordering ask how a value compares to an argument, the operator of equality looks
at the structure of both. On values that are ordered the two views fit together: a value is either
below the argument or equal to it or above it. Null as a value is nowhere, null as an argument above
everything.
-/

namespace RecordQuery

namespace Value

theorem compare_of_not_comparable {v w : Value} (h : ¬v.Comparable w) :
    v.compare w = .error (.incomparable v.kind w.kind) := by
  cases v <;> cases w <;> first | rfl | exact absurd ⟨_, rfl⟩ h

end Value

theorem PropertyPath.isNull_of_resolve {p : PropertyPath} {r : Record} {v : Value}
    (h : p.resolve r = .ok (some v)) : v.isNull = false := by
  unfold resolve at h
  generalize p.segments = names at h
  induction names generalizing r with
  | nil => cases h
  | cons name rest ih =>
    obtain ⟨here, -, h⟩ := exists_of_bind_ok h
    split at h
    · cases h
    · rename_i hnull
      cases rest with
      | nil =>
        cases h
        exact Bool.eq_false_iff.mpr hnull
      | cons next rest =>
        simp only at h
        split at h
        · exact ih h
        · cases h

/-- The operators that compare a value to one argument. -/
def Operator.orderings : List Operator :=
  [.lessThan, .lessThanEqual, .greaterThan, .greaterThanEqual, .before, .after]

namespace Test

theorem sameValue_exact (v w : Value) : sameValue false v w = v.same w := by
  unfold sameValue
  split
  · rw [Bool.eq_iff_iff]
    simp [caseForm, Value.same, String.toList_inj]
  · rfl

theorem sameValue_null {v : Value} (hv : v.isNull = false) (ignoreCase : Bool) :
    sameValue ignoreCase v .null = false := by
  cases v <;> first | rfl | cases hv

end Test

theorem Argument.toValue_of_isNull {x : Argument} (h : x.isNull = true) : x.toValue = .null := by
  cases x <;> first | rfl | cases h

namespace Filter

section

variable [Regex.Library] {path : SharedPath} {r : Record} {found : Option Value} {op : Operator}
  {x : Argument}

theorem answer_ordering (hr : path.path.resolve r = .ok found) (hop : op ∈ Operator.orderings)
    (ignoreCase : Bool) (rest : List Argument) :
    answer path op ignoreCase (x :: rest) r = Test.run found (.ordered op x) := by
  simp only [Operator.orderings, List.mem_cons, List.not_mem_nil, or_false] at hop
  rcases hop with rfl | rfl | rfl | rfl | rfl | rfl <;>
    exact answer_of_resolve (by decide) hr ignoreCase x rest

theorem answer_equals (hr : path.path.resolve r = .ok found) (ignoreCase : Bool)
    (rest : List Argument) :
    answer path .equals ignoreCase (x :: rest) r =
      .ok (Test.sameAttribute ignoreCase found x.toValue) :=
  (answer_of_resolve (by decide) hr ignoreCase x rest).trans (congrArg Except.ok (Bool.bne_false _))

theorem answer_between_null (hr : path.path.resolve r = .ok none) (ignoreCase : Bool)
    (y : Argument) (rest : List Argument) :
    answer path .between ignoreCase (x :: y :: rest) r = .ok false := by
  have hbuild : build path .between ignoreCase (x :: y :: rest) =
      .ok (and (leaf ⟨path, .greaterThan, ignoreCase, [x], .ordered .greaterThan x⟩)
        (leaf ⟨path, .lessThan, ignoreCase, [y], .ordered .lessThan y⟩)) :=
    build_of_enough path rfl (Nat.succ_le_succ (Nat.succ_le_succ rest.length.zero_le))
  -- the lower end is false already, so the upper one is not asked
  have hlow : (leaf ⟨path, .greaterThan, ignoreCase, [x], .ordered .greaterThan x⟩).passes r =
      .ok false := by
    rw [passes_leaf, hr]
    rfl
  rw [answer, hbuild]
  change (passesVia .plain r _ >>= _ : ExceptT QueryError Id Bool).run = _
  rw [run_bind_plain]
  change Except.bind (passes _ r) _ = _
  rw [hlow]
  rfl

theorem answer_ordering_null (hr : path.path.resolve r = .ok none) (hop : op ∈ Operator.orderings)
    (ignoreCase : Bool) (rest : List Argument) :
    answer path op ignoreCase (x :: rest) r = .ok false :=
  answer_ordering hr hop ignoreCase rest

theorem answer_ordering_some {v : Value} (hr : path.path.resolve r = .ok (some v))
    (hop : op ∈ Operator.orderings) (ignoreCase : Bool) (rest : List Argument) :
    answer path op ignoreCase (x :: rest) r = (Test.compareTo v x).map op.accepts :=
  answer_ordering hr hop ignoreCase rest

end

/-- All comparisons of a value with an argument fail alike, or it is below, equal or above, and no
two of these. Null at the path makes every comparison false. -/
theorem orderings_trichotomous [Regex.Library] (path : SharedPath) (r : Record)
    (found : Option Value) (hr : path.path.resolve r = .ok found) (ignoreCase : Bool)
    (x : Argument) (rest : List Argument) :
    let compared (op : Operator) := answer path op ignoreCase (x :: rest) r
    let equals := answer path .equals false (x :: rest) r
    (found = none → (∀ op ∈ Operator.orderings, compared op = .ok false) ∧
      ∀ y, answer path .between ignoreCase (x :: y :: rest) r = .ok false) ∧
    (∀ v, found = some v → x.isNull = true →
      (∀ op ∈ [Operator.lessThan, .lessThanEqual, .before], compared op = .ok true) ∧
      ∀ op ∈ [Operator.greaterThan, .greaterThanEqual, .after, .equals], compared op = .ok false) ∧
    ∀ v, found = some v → x.isNull = false →
      let ordered := v.kind = x.toValue.kind ∧
        v.kind ∈ [Kind.string, .number, .timestamp, .bool]
      (¬ordered → ∀ op ∈ Operator.orderings,
        compared op = .error (.incomparable v.kind x.toValue.kind)) ∧
      (ordered → ∃ less equal greater : Bool, [less, equal, greater].count true = 1 ∧
        compared .lessThan = .ok less ∧ equals = .ok equal ∧ compared .greaterThan = .ok greater ∧
        compared .lessThanEqual = .ok (less || equal) ∧
        compared .greaterThanEqual = .ok (greater || equal) ∧
        compared .before = .ok less ∧ compared .after = .ok greater) := by
  intro compared equals
  refine ⟨?_, ?_, ?_⟩
  · rintro rfl
    exact ⟨fun op hop => answer_ordering_null hr hop ignoreCase rest,
      fun y => answer_between_null hr ignoreCase y rest⟩
  · rintro v rfl hnull
    have hcompared {op : Operator} (hop : op ∈ Operator.orderings) :
        compared op = .ok (op.accepts .lt) := by
      refine (answer_ordering_some hr hop ignoreCase rest).trans ?_
      rw [Test.compareTo, if_pos hnull]
      rfl
    have hequals : compared .equals = .ok false := by
      refine (answer_equals hr ignoreCase rest).trans ?_
      rw [Argument.toValue_of_isNull hnull, Test.sameAttribute,
        Test.sameValue_null (PropertyPath.isNull_of_resolve hr)]
    simp only [List.mem_cons, List.not_mem_nil, or_false, forall_eq_or_imp, forall_eq]
    exact ⟨⟨hcompared (by decide), hcompared (by decide), hcompared (by decide)⟩,
      hcompared (by decide), hcompared (by decide), hcompared (by decide), hequals⟩
  · rintro v rfl hnull
    have hcompared {op : Operator} (hop : op ∈ Operator.orderings) :
        compared op = (v.compare x.toValue).map op.accepts := by
      refine (answer_ordering_some hr hop ignoreCase rest).trans ?_
      rw [Test.compareTo, if_neg (by rw [hnull]; decide)]
    have hequals : equals = .ok (v.same x.toValue) := by
      refine (answer_equals hr false rest).trans ?_
      rw [Test.sameAttribute, Test.sameValue_exact]
    rw [← Value.comparable_iff]
    refine ⟨fun hordered op hop => ?_, ?_⟩
    · rw [hcompared hop, Value.compare_of_not_comparable hordered]
      rfl
    · rintro ⟨o, ho⟩
      have hsame : v.same x.toValue = (o == .eq) := by
        rw [Bool.eq_iff_iff, ← Value.eq_iff_same_of_compare ho, beq_iff_eq]
      simp only [ho, Except.map] at hcompared
      rw [hsame] at hequals
      refine ⟨o == .lt, o == .eq, o == .gt, ?_, hcompared (by decide), hequals,
        hcompared (by decide), (hcompared (by decide)).trans ?_, (hcompared (by decide)).trans ?_,
        hcompared (by decide), hcompared (by decide)⟩
      all_goals cases o <;> rfl

/-- What is no number is above every number and below null, and is not ordered among strings. -/
theorem orderings_trichotomous_nan :
    let path : SharedPath := ⟨0, "v", by decide⟩
    let nan : Value := .number (.float .nan)
    let r : Record := ⟨⟨0, "T", ["v"]⟩, [nan]⟩
    let one : Argument := .number (.signed 1)
    let compared (op : Operator) (x : Argument) := answer path op false [x] r
    path.path.resolve r = .ok (some nan) ∧ compared .greaterThan one = .ok true ∧
      compared .equals one = .ok false ∧ compared .lessThanEqual one = .ok false ∧
      compared .before .null = .ok true ∧
      compared .after (.string "b") = .error (.incomparable .number .string) := by
  intro path nan r one compared
  have hr : path.path.resolve r = .ok (some nan) := by cbv
  obtain ⟨-, -, hone⟩ := orderings_trichotomous path r _ hr false one []
  obtain ⟨-, hnull, -⟩ := orderings_trichotomous path r _ hr false .null []
  obtain ⟨-, -, hstring⟩ := orderings_trichotomous path r _ hr false (.string "b") []
  obtain ⟨less, equal, greater, hcount, -, hequals, habove, hbelow, -⟩ :=
    (hone nan rfl rfl).2 ⟨rfl, by decide⟩
  have hplace : (Number.float .nan).compare (.signed 1) = .gt := by decide +kernel
  have hgreater : compared .greaterThan one = .ok true :=
    (answer_ordering_some hr (by decide) false []).trans
      (congrArg (fun o => Except.ok (Operator.accepts .greaterThan o)) hplace)
  cases habove.symm.trans hgreater
  obtain ⟨rfl, rfl⟩ : less = false ∧ equal = false := by
    revert hcount
    cases less <;> cases equal <;> decide
  refine ⟨hr, hgreater, hequals, hbelow, (hnull nan rfl rfl).1 _ (by decide), ?_⟩
  have hkind : nan.kind ≠ .string := by decide
  exact (hstring nan rfl rfl).1 (fun h => hkind h.1) .after (by decide)

end Filter

end RecordQuery
