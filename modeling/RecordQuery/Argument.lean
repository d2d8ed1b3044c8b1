import RecordQuery.Regex.Basic
import RecordQuery.Value.Equality
import RecordQuery.Value.Text

/-!
# Arguments of operators

An argument is a value without maps and records, or a compiled regular expression. For comparison
a regular expression counts as the text of its pattern.
-/

namespace RecordQuery

inductive Argument where
  | null
  | bool (b : Bool)
  | number (n : Number)
  | timestamp (t : Timestamp)
  | string (s : String)
  | list (items : List Argument)
  | regex (r : Regex)

namespace Argument

mutual

def toValue : Argument → Value
  | null => .null
  | bool b => .bool b
  | number n => .number n
  | timestamp t => .timestamp t
  | string s => .string s
  | list items => .list (itemValues items)
  | regex r => .string r.source
termination_by structural a => a

def itemValues : List Argument → List Value
  | [] => []
  | a :: rest => toValue a :: itemValues rest
termination_by structural items => items

end

theorem itemValues_eq_map (items : List Argument) : itemValues items = items.map toValue := by
  induction items with
  | nil => rfl
  | cons a rest ih => simp [itemValues, ih]

def isNull : Argument → Bool
  | null => true
  | _ => false

def toString? : Argument → Option String
  | string s => some s
  | _ => none

def toList? : Argument → Option (List Argument)
  | list items => some items
  | _ => none

/-- Equality of arguments: expressions by the text of their patterns and never equal to anything
else, all other arguments by value. -/
def same : Argument → Argument → Bool
  | regex a, regex b => a.source == b.source
  | regex _, _ => false
  | _, regex _ => false
  | a, b => a.toValue == b.toValue

instance : BEq Argument := ⟨same⟩

mutual

def debugText : Argument → String
  | list items => Value.enclose "List([" "])" (itemDebugTexts items)
  | regex r => Value.enclose "Regex(Regex(" "))" [Text.quoted r.source]
  | null => Value.null.debugText
  | bool b => (Value.bool b).debugText
  | number n => (Value.number n).debugText
  | timestamp t => (Value.timestamp t).debugText
  | string s => (Value.string s).debugText
termination_by structural a => a

def itemDebugTexts : List Argument → List String
  | [] => []
  | a :: rest => debugText a :: itemDebugTexts rest
termination_by structural items => items

end

/-- The argument as it stands in the text of a condition: strings quoted, patterns between
slashes. -/
def toText : Argument → String
  | string s => Text.quoted s
  | regex r => "/" ++ r.source ++ "/"
  | a => a.toValue.toText

end Argument

end RecordQuery
