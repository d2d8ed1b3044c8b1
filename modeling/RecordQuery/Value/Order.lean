import RecordQuery.Error

/-!
# The natural order of values

Strings, numbers, timestamps and truth values are ordered among their own kind: strings by code
points, `false` before `true`. Nothing else is ordered.
-/

namespace RecordQuery

namespace Value

def compare (a b : Value) : Except QueryError Ordering :=
  match a, b with
  | string a, string b => .ok (Ord.compare a b)
  | number a, number b => .ok (a.compare b)
  | timestamp a, timestamp b => .ok (a.compare b)
  | bool a, bool b => .ok (Ord.compare a b)
  | a, b => .error (.incomparable a.kind b.kind)

end Value

end RecordQuery
