import RecordQuery.Number
import RecordQuery.Timestamp

/-!
# Values and records

A record is a list of values under a record type, which names one attribute for each slot. A value
is what an attribute holds; records nest in values. Slots are read by position: one past the
values holds null, and values past the named attributes are reached by position only.
-/

namespace RecordQuery

/-- A kind of record. Types are told apart by `key` alone; names need not differ. -/
structure RecordType where
  key : Nat
  name : String
  attributes : List String
  deriving DecidableEq

/-- The position of the first attribute with the given name. -/
def RecordType.slotOf? (t : RecordType) (name : String) : Option Nat :=
  t.attributes.findIdx? (· == name)

inductive Value where
  | null
  | bool (b : Bool)
  | number (n : Number)
  | timestamp (t : Timestamp)
  | string (s : String)
  | list (items : List Value)
  /-- Entries in source order; keys may repeat. -/
  | map (entries : List (Value × Value))
  | record (type : RecordType) (values : List Value)

inductive Kind where
  | null | bool | number | timestamp | string | list | map | record
  deriving DecidableEq, Repr

def Kind.name : Kind → String
  | null => "null"
  | bool => "bool"
  | number => "number"
  | timestamp => "timestamp"
  | string => "string"
  | list => "list"
  | map => "map"
  | record => "record"

structure Record where
  type : RecordType
  values : List Value

namespace Record

def valueAt (r : Record) (slot : Nat) : Value := r.values.getD slot .null

def get? (r : Record) (name : String) : Option Value :=
  (r.type.slotOf? name).map r.valueAt

def toValue (r : Record) : Value := .record r.type r.values

end Record

namespace Value

def kind : Value → Kind
  | null => .null
  | bool _ => .bool
  | number _ => .number
  | timestamp _ => .timestamp
  | string _ => .string
  | list _ => .list
  | map _ => .map
  | record _ _ => .record

def isNull (v : Value) : Bool := v.kind == .null

def toBool? : Value → Option Bool
  | bool b => some b
  | _ => none

def toNumber? : Value → Option Number
  | number n => some n
  | _ => none

def toTimestamp? : Value → Option Timestamp
  | timestamp t => some t
  | _ => none

def toString? : Value → Option String
  | string s => some s
  | _ => none

def toList? : Value → Option (List Value)
  | list items => some items
  | _ => none

def toRecord? : Value → Option Record
  | record type values => some ⟨type, values⟩
  | _ => none

@[simp] theorem toRecord?_toValue (r : Record) : r.toValue.toRecord? = some r := rfl

end Value

end RecordQuery
