import RecordQuery.Value.Basic

/-!
# Values in memory

A value refers to the records in it, and each of them has an address. Equality makes use of that: a
record is equal to the record at its own address without a look at its attributes.
-/

namespace RecordQuery

/-- A value with the addresses of the records in it. -/
inductive Placed where
  | null
  | bool (b : Bool)
  | number (n : Number)
  | timestamp (t : Timestamp)
  | string (s : String)
  | list (items : List Placed)
  | map (entries : List (Placed × Placed))
  | record (address : Nat) (type : RecordType) (values : List Placed)

namespace Placed

mutual

/-- The value without addresses. -/
def contents : Placed → Value
  | null => .null
  | bool b => .bool b
  | number n => .number n
  | timestamp t => .timestamp t
  | string s => .string s
  | list items => .list (itemContents items)
  | map entries => .map (entryContents entries)
  | record _ type values => .record type (itemContents values)
termination_by structural a => a

def itemContents : List Placed → List Value
  | [] => []
  | a :: rest => contents a :: itemContents rest
termination_by structural items => items

def entryContents : List (Placed × Placed) → List (Value × Value)
  | [] => []
  | (k, a) :: rest => (contents k, contents a) :: entryContents rest
termination_by structural entries => entries

end

mutual

/-- The records of a value, each with its depth and its address. -/
def records (depth : Nat) : Placed → List ((Nat × Nat) × Record)
  | list items => itemRecords (depth + 1) items
  | map entries => entryRecords (depth + 1) entries
  | record address type values =>
    ((depth, address), ⟨type, itemContents values⟩) :: itemRecords (depth + 1) values
  | _ => []
termination_by structural a => a

def itemRecords (depth : Nat) : List Placed → List ((Nat × Nat) × Record)
  | [] => []
  | a :: rest => records depth a ++ itemRecords depth rest
termination_by structural items => items

def entryRecords (depth : Nat) : List (Placed × Placed) → List ((Nat × Nat) × Record)
  | [] => []
  | (k, a) :: rest => records depth k ++ records depth a ++ entryRecords depth rest
termination_by structural entries => entries

end

def isNull (a : Placed) : Bool := a.contents.isNull

mutual

/-- Structural equality that compares addresses first. -/
def same : Placed → Placed → Bool
  | null, null => true
  | bool a, bool b => a == b
  | number a, number b => a == b
  | timestamp a, timestamp b => a == b
  | string a, string b => a == b
  | list as, list bs => sameItems as bs
  | map as, map bs => as.length == bs.length && includedIn bs as
  | record p s as, record q t bs =>
    p == q || (s.key == t.key && s.attributes.length == t.attributes.length
      && sameSlots s.attributes.length as bs)
  | _, _ => false
termination_by structural a => a

def sameItems : List Placed → List Placed → Bool
  | [], [] => true
  | a :: as, b :: bs => same a b && sameItems as bs
  | _, _ => false
termination_by structural as => as

def includedIn (bs : List (Placed × Placed)) : List (Placed × Placed) → Bool
  | [] => true
  | (k, a) :: as => bs.any (fun e => same k e.1 && same a e.2) && includedIn bs as
termination_by structural as => as

def sameSlots : Nat → List Placed → List Placed → Bool
  | 0, _, _ => true
  | slots + 1, [], bs => (bs.take (slots + 1)).all isNull
  | slots + 1, a :: as, bs => same a (bs.headD null) && sameSlots slots as bs.tail
termination_by structural _ as => as

end

end Placed

end RecordQuery
