import RecordQuery.Filter.Build

/-!
# Clauses

A list of clauses describes a filter without parentheses: conjunction binds tighter than
disjunction, and each clause takes its arguments from where the one before it stopped.
-/

namespace RecordQuery

/-- How a clause joins the one before it. -/
inductive Connector where
  | and | or
  deriving DecidableEq, Repr

structure Clause where
  connector : Connector
  property : String
  operator : Operator
  ignoreCase : Bool
  deriving DecidableEq

namespace Clause

def arity (clauses : List Clause) : Nat := clauses.foldr (fun c n => c.operator.arity + n) 0

end Clause

namespace Filter

variable [Regex.Library]

/-- A disjunction of finished groups and one more. -/
def joinOr (branches : Option Filter) (next : Filter) : Filter :=
  match branches with
  | some branches => or branches next
  | none => next

/-- Adds clauses to the groups finished so far and to the group at hand. The path of a clause is
registered before its operator is looked at. -/
def assembleFrom (branches group : Option Filter) :
    List Clause → List Argument → PathM (Option Filter)
  | [], _ =>
    return match group with
      | some group => some (joinOr branches group)
      | none => branches
  | c :: rest, args => do
    let shared ← PathRegistry.intern c.property
    let condition ← build shared c.operator c.ignoreCase args
    let args := args.drop c.operator.arity
    match group, c.connector with
    | some group, .or => assembleFrom (some (joinOr branches group)) (some condition) rest args
    | some group, .and => assembleFrom branches (some (and group condition)) rest args
    | none, _ => assembleFrom branches (some condition) rest args

/-- The filter that a list of clauses describes; no clauses, no filter. -/
def assemble (clauses : List Clause) (args : List Argument) : PathM (Option Filter) :=
  assembleFrom none none clauses args

end Filter

end RecordQuery
