import RecordQuery.Filter.Basic
import RecordQuery.Order.Key

/-!
# Orders of records

Sort keys with their paths read order records: the first key that tells two records apart decides,
and without keys all records are equal.
-/

namespace RecordQuery

/-- A sort key whose property is a path. -/
structure PathKey where
  path : SharedPath
  direction : Direction
  nulls : NullPlacement

namespace PathKey

variable {m : Type → Type} [Monad m]

/-- The key that a sort key describes. -/
def ofSortKey (k : SortKey) : PathM PathKey := do
  let shared ← PathRegistry.intern k.property
  return ⟨shared, k.direction, k.nulls⟩

/-- Compares two properties. Nulls are placed before the direction applies. -/
def compareValues (k : PathKey) : Option Value → Option Value → Except QueryError Ordering
  | none, none => .ok .eq
  | none, some _ => .ok k.nulls.nullToValue
  | some _, none => .ok k.nulls.nullToValue.swap
  | some a, some b => (a.compare b).map k.direction.apply

def compareVia (read : PathReader m) (k : PathKey) (a b : Record) :
    ExceptT QueryError m Ordering := do
  let left ← read k.path a
  let right ← read k.path b
  ExceptT.mk (pure (k.compareValues left right))

end PathKey

/-- Keys in the order of their weight, the deciding one first. -/
structure RecordOrder where
  keys : List PathKey

namespace RecordOrder

variable {m : Type → Type} [Monad m]

def trivial : RecordOrder := ⟨[]⟩

def isTrivial (o : RecordOrder) : Bool := o.keys.isEmpty

def andThen (o : RecordOrder) (k : PathKey) : RecordOrder := ⟨o.keys ++ [k]⟩

/-- Compares by each key in turn. Keys past the deciding one are not read. -/
def compareKeys (read : PathReader m) : List PathKey → Record → Record →
    ExceptT QueryError m Ordering
  | [], _, _ => return .eq
  | k :: rest, a, b => do
    match ← k.compareVia read a b with
    | .eq => compareKeys read rest a b
    | o => return o

def compareVia (read : PathReader m) (o : RecordOrder) (a b : Record) :
    ExceptT QueryError m Ordering :=
  compareKeys read o.keys a b

def compare (o : RecordOrder) (a b : Record) : Except QueryError Ordering :=
  o.compareVia .plain a b

/-- The order that sort keys describe. Their paths are registered key by key. -/
def ofKeys (keys : List SortKey) : PathM RecordOrder := do
  return ⟨← keys.mapM PathKey.ofSortKey⟩

def standalone (keys : List SortKey) : SlotM RecordOrder := fun memory =>
  let (result, g) := (ofKeys keys).run.run { paths := [], memory }
  (result, g.memory)

end RecordOrder

end RecordQuery
