/-!
# Sort keys

A sort key names a property, a direction and a place for nulls. The place of nulls does not depend
on the direction.
-/

namespace RecordQuery

inductive Direction where
  | ascending | descending
  deriving DecidableEq, Repr

namespace Direction

def apply : Direction → Ordering → Ordering
  | ascending, o => o
  | descending, o => o.swap

def isAscending (d : Direction) : Bool := d == ascending

def isDescending (d : Direction) : Bool := d == descending

def name : Direction → String
  | ascending => "asc"
  | descending => "desc"

end Direction

/-- Whether nulls stand before or after everything else. -/
inductive NullPlacement where
  | first | last
  deriving DecidableEq, Repr

namespace NullPlacement

/-- How null compares to a value. -/
def nullToValue : NullPlacement → Ordering
  | first => .lt
  | last => .gt

def name : NullPlacement → String
  | first => "nulls first"
  | last => "nulls last"

end NullPlacement

structure SortKey where
  property : String
  direction : Direction := .ascending
  nulls : NullPlacement := .first
  deriving DecidableEq

def SortKey.toText (k : SortKey) : String :=
  " ".intercalate [k.property, k.direction.name, k.nulls.name]

end RecordQuery
