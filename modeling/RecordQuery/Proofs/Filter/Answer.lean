import RecordQuery.Proofs.Filter.Conditions
import RecordQuery.Proofs.Filter.Groups

/-!
# What a single condition says

Most operators make one test of one argument, whatever the argument is, and ask it of the value at
the path. Arguments behind the first are not looked at, and the condition fails only where the path
or the test fails.
-/

namespace RecordQuery

/-- The operators that make one test of any argument. -/
def Operator.ofArgument : List Operator :=
  [.equals, .notEquals, .lessThan, .lessThanEqual, .greaterThan, .greaterThanEqual, .before, .after,
   .startsWith, .endsWith, .contains, .like, .oneOf, .noneOf]

/-- The test that such an operator makes. -/
def Test.ofArgument (op : Operator) (ignoreCase : Bool) (x : Argument) : Test :=
  match op.canonical with
  | .equals => equals x.toValue ignoreCase false
  | .notEquals => equals x.toValue ignoreCase true
  | .startsWith => ofAffix startsWith ignoreCase x
  | .endsWith => ofAffix endsWith ignoreCase x
  | .contains => contains x.toValue ignoreCase
  | .oneOf => ofMembers false x
  | .noneOf => ofMembers true x
  | _ => ordered op x

namespace Filter

variable [Regex.Library]

/-- What a condition says of a record. -/
def answer (path : SharedPath) (op : Operator) (ignoreCase : Bool) (args : List Argument)
    (r : Record) : Except QueryError Bool :=
  build path op ignoreCase args >>= fun f => f.passes r

theorem build_ofArgument {op : Operator} (hop : op ∈ Operator.ofArgument) (path : SharedPath)
    (ignoreCase : Bool) (x : Argument) (rest : List Argument) :
    build path op ignoreCase (x :: rest) =
      .ok (leaf ⟨path, op, ignoreCase, [x], .ofArgument op ignoreCase x⟩) := by
  have henough : 1 ≤ (x :: rest).length := Nat.succ_le_succ rest.length.zero_le
  simp only [Operator.ofArgument, List.mem_cons, List.not_mem_nil, or_false] at hop
  rcases hop with rfl | rfl | rfl | rfl | rfl | rfl | rfl | rfl | rfl | rfl | rfl | rfl | rfl | rfl
  all_goals exact build_of_enough path rfl henough

theorem answer_ofArgument {op : Operator} (hop : op ∈ Operator.ofArgument) (path : SharedPath)
    (r : Record) (ignoreCase : Bool) (x : Argument) (rest : List Argument) :
    answer path op ignoreCase (x :: rest) r =
      path.path.resolve r >>= fun v => (Test.ofArgument op ignoreCase x).run v := by
  rw [answer, build_ofArgument hop]
  exact passes_leaf _ r

theorem answer_of_resolve {op : Operator} (hop : op ∈ Operator.ofArgument) {path : SharedPath}
    {r : Record} {found : Option Value} (hr : path.path.resolve r = .ok found) (ignoreCase : Bool)
    (x : Argument) (rest : List Argument) :
    answer path op ignoreCase (x :: rest) r = (Test.ofArgument op ignoreCase x).run found := by
  rw [answer_ofArgument hop, hr]
  rfl

end Filter

end RecordQuery
