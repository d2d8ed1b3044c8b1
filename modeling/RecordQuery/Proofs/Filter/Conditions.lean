import Mathlib.Data.List.Basic
import RecordQuery.Filter.Clause

/-!
# What building makes

What comes of an operator, a path and the arguments that are left: the leaves that stand for the
operator, or the first complaint about it. Only the arguments of the operator itself count.
-/

namespace RecordQuery

/-- What a leaf states, apart from its test. -/
structure Leaf.Heading where
  property : String
  operator : Operator
  ignoreCase : Bool
  arguments : List Argument

def Leaf.heading (l : Leaf) : Leaf.Heading :=
  ⟨l.path.dotted, l.operator, l.ignoreCase, l.arguments⟩

namespace Filter

/-- The leaves of an operator with its arguments: one, and for an interval one for each end. -/
def headings (property : String) (op : Operator) (ignoreCase : Bool) (args : List Argument) :
    List Leaf.Heading :=
  if op = .between then
    [⟨property, .greaterThan, ignoreCase, args.take 1⟩,
      ⟨property, .lessThan, ignoreCase, args.drop 1⟩]
  else [⟨property, op, ignoreCase, args⟩]

theorem flatMap_arguments_headings (property : String) (op : Operator) (ignoreCase : Bool)
    (args : List Argument) :
    (headings property op ignoreCase args).flatMap Leaf.Heading.arguments = args := by
  unfold headings
  split
  · show args.take 1 ++ (args.drop 1 ++ []) = args
    rw [List.append_nil, List.take_append_drop]
  · exact List.append_nil args

variable [Regex.Library]

/-- The first argument of a match is to be a pattern and is none. -/
def PatternFault (op : Operator) (ignoreCase : Bool) (args : List Argument)
    (cause : Regex.SyntaxError) : Prop :=
  op = .matchesPattern ∧
    ∃ a rest, args = a :: rest ∧ a.isNull = false ∧ a.toRegex ignoreCase = .error cause

theorem patternFault_take {op : Operator} {ignoreCase : Bool} {args : List Argument}
    {cause : Regex.SyntaxError} :
    PatternFault op ignoreCase (args.take op.arity) cause ↔
      PatternFault op ignoreCase args cause := by
  unfold PatternFault
  refine and_congr_right ?_
  rintro rfl
  cases args with
  | nil => rfl
  | cons a rest => simp [Operator.arity]

section

variable (p : SharedPath) {op : Operator} {ignoreCase : Bool} {args : List Argument}

theorem ofOperator_of_patternFault {cause : Regex.SyntaxError}
    (h : PatternFault op ignoreCase args cause) (hargs : args.length = op.arity) :
    ofOperator p op ignoreCase args = .error (.invalidRegex cause) := by
  obtain ⟨rfl, a, rest, rfl, hnull, hregex⟩ := h
  obtain rfl : rest = [] := List.length_eq_zero_iff.mp (Nat.succ.inj hargs)
  show (Test.ofMatch ignoreCase a).map _ = _
  unfold Test.ofMatch
  rw [hnull, hregex]
  rfl

/-- A supported operator with its arguments has its leaves, unless the pattern is at fault. -/
theorem ofOperator_cases (hop : op.isSupported = true) (hargs : args.length = op.arity) :
    (∃ cause, PatternFault op ignoreCase args cause) ∨
      ∃ f, ofOperator p op ignoreCase args = .ok f ∧
        f.leaves.map Leaf.heading = headings p.dotted op ignoreCase args := by
  cases op with
  | notLike | notContaining | present | isEmpty | isNotEmpty | near | within => cases hop
  | isNull | isNotNull | isTrue | isFalse =>
    obtain rfl := List.length_eq_zero_iff.mp hargs
    exact .inr ⟨_, rfl, rfl⟩
  | between =>
    obtain ⟨low, high, rfl⟩ := List.length_eq_two.mp hargs
    exact .inr ⟨_, rfl, rfl⟩
  | matchesPattern =>
    obtain ⟨a, rfl⟩ := List.length_eq_one_iff.mp hargs
    have hmatch : ofOperator p .matchesPattern ignoreCase [a] = (Test.ofMatch ignoreCase a).map
        fun test => leaf ⟨p, .matchesPattern, ignoreCase, [a], test⟩ := rfl
    rw [hmatch]
    unfold Test.ofMatch
    cases hnull : a.isNull with
    | true => exact .inr ⟨_, rfl, rfl⟩
    | false =>
      cases hregex : a.toRegex ignoreCase with
      | ok r => exact .inr ⟨_, rfl, rfl⟩
      | error cause => exact .inl ⟨cause, rfl, a, [], rfl, hnull, hregex⟩
  | _ =>
    obtain ⟨a, rfl⟩ := List.length_eq_one_iff.mp hargs
    exact .inr ⟨_, rfl, rfl⟩

/-! ## Conditions from the arguments that are left -/

/-- What is wrong with an operator and the arguments left for it: the operator, or else their
number, or else the pattern. -/
inductive Fault (op : Operator) (ignoreCase : Bool) (args : List Argument) : QueryError → Prop where
  | operator (hop : op.isSupported = false) : Fault op ignoreCase args (.unsupportedOperator op)
  | arguments (hop : op.isSupported = true) (hfew : args.length < op.arity) :
    Fault op ignoreCase args (.missingArgument op op.arity args.length)
  | pattern {cause : Regex.SyntaxError} (hop : op.isSupported = true)
    (henough : op.arity ≤ args.length) (h : PatternFault op ignoreCase args cause) :
    Fault op ignoreCase args (.invalidRegex cause)

theorem arity_le_of_no_fault (h : ∀ e, ¬Fault op ignoreCase args e) : op.arity ≤ args.length := by
  by_contra hfew
  rw [Nat.not_le] at hfew
  cases hop : op.isSupported with
  | false => exact h _ (.operator hop)
  | true => exact h _ (.arguments hop hfew)

theorem build_of_enough (hop : op.isSupported = true) (henough : op.arity ≤ args.length) :
    build p op ignoreCase args = ofOperator p op ignoreCase (args.take op.arity) := by
  unfold build
  rw [hop, if_neg (by decide), if_neg (Nat.not_lt.mpr henough)]

theorem build_of_fault {e : QueryError} (h : Fault op ignoreCase args e) :
    build p op ignoreCase args = .error e := by
  cases h with
  | operator hop =>
    unfold build
    rw [hop]
    rfl
  | arguments hop hfew =>
    unfold build
    rw [hop, if_neg (by decide), if_pos hfew]
  | pattern hop henough h =>
    rw [build_of_enough p hop henough]
    apply ofOperator_of_patternFault p (patternFault_take.mpr h)
    rw [List.length_take]
    omega

theorem build_cases (op : Operator) (ignoreCase : Bool) (args : List Argument) :
    (∃ e, Fault op ignoreCase args e) ∨
      op.arity ≤ args.length ∧ ∃ f, build p op ignoreCase args = .ok f ∧
        f.leaves.map Leaf.heading = headings p.dotted op ignoreCase (args.take op.arity) := by
  cases hop : op.isSupported with
  | false => exact .inl ⟨_, .operator hop⟩
  | true =>
    by_cases hfew : args.length < op.arity
    · exact .inl ⟨_, .arguments hop hfew⟩
    have henough : op.arity ≤ args.length := Nat.not_lt.mp hfew
    have hlength : (args.take op.arity).length = op.arity := by
      rw [List.length_take]
      omega
    rw [build_of_enough p hop henough]
    rcases ofOperator_cases p hop hlength with ⟨cause, hfault⟩ | hmade
    · exact .inl ⟨_, .pattern hop henough (patternFault_take.mp hfault)⟩
    · exact .inr ⟨henough, hmade⟩

theorem build_eq_error_iff {e : QueryError} :
    build p op ignoreCase args = .error e ↔ Fault op ignoreCase args e := by
  refine ⟨fun h => ?_, build_of_fault p⟩
  rcases build_cases p op ignoreCase args with ⟨e', hfault⟩ | ⟨-, f, hmade, -⟩
  · cases (build_of_fault p hfault).symm.trans h
    exact hfault
  · cases hmade.symm.trans h

theorem headings_of_build {f : Filter} (h : build p op ignoreCase args = .ok f) :
    op.arity ≤ args.length ∧
      f.leaves.map Leaf.heading = headings p.dotted op ignoreCase (args.take op.arity) := by
  rcases build_cases p op ignoreCase args with ⟨e, hfault⟩ | ⟨henough, f', hmade, hheadings⟩
  · cases (build_of_fault p hfault).symm.trans h
  · cases hmade.symm.trans h
    exact ⟨henough, hheadings⟩

end

end Filter

end RecordQuery
