/-!
# Operators

The comparisons that a condition can name. Three are other names of an operator
(`Operator.canonical`), and some belong to the vocabulary but need more than the records at hand to
be evaluated.
-/

namespace RecordQuery

inductive Operator where
  | equals | notEquals | isNull | isNotNull
  | isTrue | isFalse
  | greaterThan | greaterThanEqual | lessThan | lessThanEqual | between | before | after
  | startsWith | endsWith | contains | like | matchesPattern | oneOf | noneOf
  | notLike | notContaining | present | isEmpty | isNotEmpty | near | within
  deriving DecidableEq, Repr

namespace Operator

def all : List Operator :=
  [equals, notEquals, isNull, isNotNull, isTrue, isFalse, greaterThan, greaterThanEqual, lessThan,
   lessThanEqual, between, before, after, startsWith, endsWith, contains, like, matchesPattern,
   oneOf, noneOf, notLike, notContaining, present, isEmpty, isNotEmpty, near, within]

theorem mem_all (op : Operator) : op ∈ all := by cases op <;> decide

/-- The number of arguments an operator takes. -/
def arity : Operator → Nat
  | isNull | isNotNull | isTrue | isFalse | present | isEmpty | isNotEmpty => 0
  | between | within => 2
  | _ => 1

def isSupported : Operator → Bool
  | notLike | notContaining | present | isEmpty | isNotEmpty | near | within => false
  | _ => true

/-- The operator that another name stands for. -/
def canonical : Operator → Operator
  | before => lessThan
  | after => greaterThan
  | like => contains
  | op => op

def isOrdering (op : Operator) : Bool :=
  match op.canonical with
  | greaterThan | greaterThanEqual | lessThan | lessThanEqual => true
  | _ => false

def isCaseSensitive (op : Operator) : Bool :=
  match op.canonical with
  | equals | notEquals | startsWith | endsWith | contains | matchesPattern => true
  | _ => false

/-- Whether an ordering operator accepts a value that compares to the argument in this way. -/
def accepts (op : Operator) (o : Ordering) : Bool :=
  match op.canonical with
  | greaterThan => o == .gt
  | greaterThanEqual => o != .lt
  | lessThan => o == .lt
  | lessThanEqual => o != .gt
  | _ => false

def name : Operator → String
  | equals => "equals"
  | notEquals => "not_equals"
  | isNull => "is_null"
  | isNotNull => "is_not_null"
  | isTrue => "is_true"
  | isFalse => "is_false"
  | greaterThan => "greater_than"
  | greaterThanEqual => "greater_than_equal"
  | lessThan => "less_than"
  | lessThanEqual => "less_than_equal"
  | between => "between"
  | before => "before"
  | after => "after"
  | startsWith => "starts_with"
  | endsWith => "ends_with"
  | contains => "contains"
  | like => "like"
  | matchesPattern => "matches"
  | oneOf => "in"
  | noneOf => "not_in"
  | notLike => "not_like"
  | notContaining => "not_containing"
  | present => "exists"
  | isEmpty => "is_empty"
  | isNotEmpty => "is_not_empty"
  | near => "near"
  | within => "within"

def ofName? (s : String) : Option Operator := all.find? fun op => op.name == s

theorem ofName?_name (op : Operator) : ofName? op.name = some op := by
  cases op <;> decide +kernel

/-- Joins words separated by underscores, each with a capital first letter. -/
def joinCapitalized (start : Bool) : List Char → List Char
  | [] => []
  | c :: rest =>
    if c == '_' then joinCapitalized true rest
    else (if start then c.toUpper else c) :: joinCapitalized false rest

def debugText (op : Operator) : String := String.ofList (joinCapitalized true op.name.toList)

end Operator

end RecordQuery
