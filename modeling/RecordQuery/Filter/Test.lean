import RecordQuery.Argument
import RecordQuery.Text.Search
import RecordQuery.Unicode.Lowercase
import RecordQuery.Value.Order

/-!
# Tests on one attribute

What an operator with its arguments asks of the value at a path. The value is absent where the path
meets null. Only an ordering can fail, on values that are not ordered.
-/

namespace RecordQuery

inductive Test where
  | isNull
  | isNotNull
  | isBool (b : Bool)
  | equals (expected : Value) (ignoreCase negated : Bool)
  | ordered (op : Operator) (argument : Argument)
  | startsWith (affix : List Char) (ignoreCase : Bool)
  | endsWith (affix : List Char) (ignoreCase : Bool)
  | contains (needle : Value) (ignoreCase : Bool)
  | matchesRegex (r : Regex)
  | oneOf (items : List Value) (negated : Bool)
  | never

namespace Test

/-- The characters of a text, in lower case where case is ignored. -/
def caseForm (ignoreCase : Bool) (s : String) : List Char :=
  if ignoreCase then Unicode.lowercase s.toList else s.toList

/-- Equality of values; case is ignored only between two strings. -/
def sameValue (ignoreCase : Bool) : Value → Value → Bool
  | .string a, .string b => caseForm ignoreCase a == caseForm ignoreCase b
  | a, b => a == b

/-- Equality with an attribute; an absent value equals null alone. -/
def sameAttribute (ignoreCase : Bool) (v : Option Value) (expected : Value) : Bool :=
  match v with
  | none => expected.isNull
  | some v => sameValue ignoreCase v expected

/-- Whether the string form of `needle` occurs in a text. Null occurs nowhere. -/
def hasSubstring (ignoreCase : Bool) (text : String) (needle : Value) : Bool :=
  !needle.isNull && Text.occursIn (caseForm ignoreCase needle.toText) (caseForm ignoreCase text)

/-- Containment: an item of a list, a value of a map, or a part of the string form of anything
else. -/
def holdsNeedle (ignoreCase : Bool) (needle : Value) : Value → Bool
  | .list items => items.any fun item => sameValue ignoreCase item needle
  | .map entries => entries.any fun e => sameValue ignoreCase e.2 needle
  | v => hasSubstring ignoreCase v.toText needle

/-- How a value compares to an argument. Null is above every value. -/
def compareTo (v : Value) (argument : Argument) : Except QueryError Ordering :=
  if argument.isNull then .ok .lt else v.compare argument.toValue

def run (v : Option Value) : Test → Except QueryError Bool
  | isNull => .ok v.isNone
  | isNotNull => .ok v.isSome
  | isBool b => .ok (v.any fun v => v.toBool? == some b)
  | equals expected ignoreCase negated => .ok (sameAttribute ignoreCase v expected != negated)
  | ordered op argument =>
    match v with
    | none => .ok false
    | some v => (compareTo v argument).map op.accepts
  | startsWith affix ignoreCase =>
    .ok (v.any fun v => v.toString?.any fun s => affix.isPrefixOf (caseForm ignoreCase s))
  | endsWith affix ignoreCase =>
    .ok (v.any fun v => v.toString?.any fun s => affix.isSuffixOf (caseForm ignoreCase s))
  | contains needle ignoreCase => .ok (v.any (holdsNeedle ignoreCase needle))
  | matchesRegex r => .ok (v.any fun v => v.toString?.any r.isMatch)
  | oneOf items negated => .ok (items.any (sameAttribute false v) != negated)
  | never => .ok false

end Test

end RecordQuery
