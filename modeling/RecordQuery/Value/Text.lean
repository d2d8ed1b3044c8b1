import RecordQuery.Text.Quoted
import RecordQuery.Value.Basic

/-!
# Text of values

`Value.toText` is the string form that substring search works on; `Value.debugText` also tells the
kind of each value.
-/

namespace RecordQuery

namespace Value

/-- Texts between brackets, separated by commas. -/
def enclose (opening closing : String) (items : List String) : String :=
  opening ++ ", ".intercalate items ++ closing

mutual

/-- The string form of a value: strings as they are, timestamps in milliseconds, records with all
attributes of their type. -/
def toText : Value → String
  | null => "null"
  | bool b => if b then "true" else "false"
  | number n => n.toText
  | timestamp t => toString t.millis.toInt
  | string s => s
  | list items => enclose "[" "]" (itemTexts items)
  | map entries => enclose "\x7b" "\x7d" (entryTexts entries)
  | record type values => type.name ++ enclose "\x7b" "\x7d" (slotTexts type.attributes values)
termination_by structural v => v

def itemTexts : List Value → List String
  | [] => []
  | v :: rest => toText v :: itemTexts rest
termination_by structural items => items

def entryTexts : List (Value × Value) → List String
  | [] => []
  | (k, v) :: rest => (toText k ++ "=" ++ toText v) :: entryTexts rest
termination_by structural entries => entries

/-- The attributes with their values; an attribute past the values is null. -/
def slotTexts : List String → List Value → List String
  | names, [] => names.map fun name => name ++ "=null"
  | [], _ => []
  | name :: names, v :: rest => (name ++ "=" ++ toText v) :: slotTexts names rest
termination_by structural _ values => values

end

mutual

/-- The value with the kind of each part. A record is shown by the name of its type. -/
def debugText : Value → String
  | null => "Null"
  | bool b => enclose "Bool(" ")" [toString b]
  | number n => enclose "Number(" ")" [n.debugText]
  | timestamp t => enclose "Timestamp(Timestamp(" "))" [toString t.millis.toInt]
  | string s => enclose "String(" ")" [Text.quoted s]
  | list items => enclose "List([" "])" (itemDebugTexts items)
  | map entries => enclose "Map([" "])" (entryDebugTexts entries)
  | record type _ => enclose "Record(" ")" [Text.quoted type.name]
termination_by structural v => v

def itemDebugTexts : List Value → List String
  | [] => []
  | v :: rest => debugText v :: itemDebugTexts rest
termination_by structural items => items

def entryDebugTexts : List (Value × Value) → List String
  | [] => []
  | (k, v) :: rest => enclose "(" ")" [debugText k, debugText v] :: entryDebugTexts rest
termination_by structural entries => entries

end

end Value

end RecordQuery
