import RecordQuery.Binary64.Decimal

/-!
# Numbers

A number keeps the representation it came in: a signed integer, an unsigned integer or a
binary64 number. Two integers are compared exactly; as soon as one side is a binary64 number, both
are compared as such.
-/

namespace RecordQuery

inductive Number where
  | signed (n : Int64)
  | unsigned (n : UInt64)
  | float (x : Binary64)

namespace Number

/-- The integer a number holds, if it is kept as one. -/
def toInt? : Number → Option Int
  | signed n => some n.toInt
  | unsigned n => some n.toNat
  | float _ => none

def toBinary64 : Number → Binary64
  | signed n => .ofInt n.toInt
  | unsigned n => .ofInt n.toNat
  | float x => x

def compare (a b : Number) : Ordering :=
  match a.toInt?, b.toInt? with
  | some m, some n => Ord.compare m n
  | _, _ => a.toBinary64.compare b.toBinary64

/-- Numbers are equal when neither comes first. -/
instance : BEq Number := ⟨fun a b => a.compare b == .eq⟩

def toText : Number → String
  | signed n => toString n.toInt
  | unsigned n => toString n.toNat
  | float x => x.toText

/-- The text that also tells the representation. -/
def debugText : Number → String
  | signed n => s!"I64({n.toInt})"
  | unsigned n => s!"U64({n.toNat})"
  | float x => s!"F64({x.debugText})"

end Number

end RecordQuery
