import RecordQuery.Value.Basic
import Std.Data.TreeMap
import Std.Data.TreeSet

/-! # Sorted collections as values -/

namespace RecordQuery

namespace Value

/-- The strings of a set, sorted by code points. -/
def ofStringSet (s : Std.TreeSet String) : Value := .list (s.toList.map .string)

/-- The integers of a set from the least to the greatest. -/
def ofIntSet (s : Std.TreeSet Int64) : Value := .list (s.toList.map fun n => .number (.signed n))

/-- The entries of a map, sorted by the code points of their keys. -/
def ofStringMap (m : Std.TreeMap String Value) : Value :=
  .map (m.toList.map fun e => (.string e.1, e.2))

end Value

end RecordQuery
