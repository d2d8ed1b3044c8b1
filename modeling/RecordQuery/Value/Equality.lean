import RecordQuery.Value.Basic

/-!
# Equality of values

Numbers are equal across representations, lists item by item, and records of one type slot by
slot. Two maps are equal when they have as many entries and each entry of the first occurs in the
second; the order of entries does not count.

Values have no addresses here. Equality that compares the addresses of records first is
`Placed.same`. By `Placed.same_eq_contents` the two agree where an address has one record at each
depth.
-/

namespace RecordQuery

namespace Value

mutual

def same : Value → Value → Bool
  | null, null => true
  | bool a, bool b => a == b
  | number a, number b => a == b
  | timestamp a, timestamp b => a == b
  | string a, string b => a == b
  | list as, list bs => sameItems as bs
  | map as, map bs => as.length == bs.length && includedIn bs as
  | record s as, record t bs =>
    s.key == t.key && s.attributes.length == t.attributes.length
      && sameSlots s.attributes.length as bs
  | _, _ => false
termination_by structural a => a

def sameItems : List Value → List Value → Bool
  | [], [] => true
  | a :: as, b :: bs => same a b && sameItems as bs
  | _, _ => false
termination_by structural as => as

/-- Whether every one of the entries occurs among `bs`. -/
def includedIn (bs : List (Value × Value)) : List (Value × Value) → Bool
  | [] => true
  | (k, v) :: as => bs.any (fun e => same k e.1 && same v e.2) && includedIn bs as
termination_by structural as => as

/-- Whether the first `slots` values are equal, a missing value being null. -/
def sameSlots : Nat → List Value → List Value → Bool
  | 0, _, _ => true
  | slots + 1, [], bs => (bs.take (slots + 1)).all isNull
  | slots + 1, a :: as, bs => same a (bs.headD null) && sameSlots slots as bs.tail
termination_by structural _ as => as

end

instance : BEq Value := ⟨same⟩

end Value

end RecordQuery
