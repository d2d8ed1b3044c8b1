import RecordQuery.Filter.Basic

/-!
# Building conditions

`Filter.build` makes the condition that one operator states about one path. Mistakes in the
operator or its arguments are found here, so that a built filter can fail only on the records it
meets.
-/

namespace RecordQuery

variable [Regex.Library]

/-- The expression that an argument of a match stands for. A compiled expression is taken as it is,
or compiled again from its text where case is ignored; anything else is a pattern for the whole
string, put between anchors as it stands. -/
def Argument.toRegex (ignoreCase : Bool) : Argument → Except Regex.SyntaxError Regex
  | .regex r =>
    if ignoreCase then Regex.compile (Regex.Flags.set {} true .caseInsensitive) r.source else .ok r
  | a =>
    Regex.compile (Regex.Flags.set {} ignoreCase .caseInsensitive)
      ("^(?:" ++ a.toValue.toText ++ ")$")

namespace Test

/-- The test of a match. A null argument asks for null. -/
def ofMatch (ignoreCase : Bool) (a : Argument) : Except QueryError Test :=
  if a.isNull then .ok isNull
  else match a.toRegex ignoreCase with
    | .ok r => .ok (matchesRegex r)
    | .error e => .error (.invalidRegex e)

/-- The test of membership in a list. Nothing is a member, or no member, of what is no list. -/
def ofMembers (negated : Bool) (a : Argument) : Test :=
  match a.toList? with
  | some items => oneOf (items.map Argument.toValue) negated
  | none => never

/-- A test for the start or the end of a string. Only a string can be either. -/
def ofAffix (test : List Char → Bool → Test) (ignoreCase : Bool) (a : Argument) : Test :=
  match a.toString? with
  | some s => test (caseForm ignoreCase s) ignoreCase
  | none => never

end Test

namespace Filter

/-- The condition of an operator that is supported and has its arguments. -/
def ofOperator (path : SharedPath) (op : Operator) (ignoreCase : Bool) (args : List Argument) :
    Except QueryError Filter :=
  let leafOf := fun test => leaf ⟨path, op, ignoreCase, args, test⟩
  let ordered := fun op a => leaf ⟨path, op, ignoreCase, [a], .ordered op a⟩
  match op.canonical, args with
  | .isNull, _ => .ok (leafOf .isNull)
  | .isNotNull, _ => .ok (leafOf .isNotNull)
  | .isTrue, _ => .ok (leafOf (.isBool true))
  | .isFalse, _ => .ok (leafOf (.isBool false))
  | .equals, [a] => .ok (leafOf (.equals a.toValue ignoreCase false))
  | .notEquals, [a] => .ok (leafOf (.equals a.toValue ignoreCase true))
  | .greaterThan, [a] | .greaterThanEqual, [a] | .lessThan, [a] | .lessThanEqual, [a] =>
    .ok (leafOf (.ordered op a))
  | .between, [low, high] => .ok (and (ordered .greaterThan low) (ordered .lessThan high))
  | .startsWith, [a] => .ok (leafOf (.ofAffix .startsWith ignoreCase a))
  | .endsWith, [a] => .ok (leafOf (.ofAffix .endsWith ignoreCase a))
  | .contains, [a] => .ok (leafOf (.contains a.toValue ignoreCase))
  | .matchesPattern, [a] => (Test.ofMatch ignoreCase a).map leafOf
  | .oneOf, [a] => .ok (leafOf (.ofMembers false a))
  | .noneOf, [a] => .ok (leafOf (.ofMembers true a))
  | _, _ => .error (.unsupportedOperator op)

/-- The condition that an operator states about a path. Arguments past the operator's own are left
aside. -/
def build (path : SharedPath) (op : Operator) (ignoreCase : Bool) (args : List Argument) :
    Except QueryError Filter :=
  if !op.isSupported then .error (.unsupportedOperator op)
  else if args.length < op.arity then .error (.missingArgument op op.arity args.length)
  else ofOperator path op ignoreCase (args.take op.arity)

end Filter

end RecordQuery
