/-!
# Scans

A scan is all records of a keyspace in the form in which a source has them. `Scan.toSequence` makes
it a list to sort and to filter, which shares the storage of the source where it can.
-/

namespace RecordQuery

inductive Scan (α : Type) where
  /-- Records that lie in the storage of the source. -/
  | slice (items : List α)
  /-- Records copied for this scan. -/
  | owned (items : List α)
  /-- Records made one by one as they are asked for. -/
  | stream (items : Thunk (List α))

/-- Records in a row, in the storage of their source or not. -/
structure Sequence (α : Type) where
  items : List α
  borrowed : Bool

namespace Scan

variable {α : Type}

/-- The records of an optional scan; without one there are none. -/
def toSequence : Option (Scan α) → Sequence α
  | none => ⟨[], false⟩
  | some (slice items) => ⟨items, true⟩
  | some (owned items) => ⟨items, false⟩
  | some (stream items) => ⟨items.get, false⟩

def debugText : Scan α → String
  | slice items => s!"Slice({items.length})"
  | owned items => s!"Vec({items.length})"
  | stream _ => "Iter(..)"

def debugTextOf : Option (Scan α) → String
  | none => "None"
  | some scan => "Some(" ++ scan.debugText ++ ")"

end Scan

/-- Sources of records, from which a whole keyspace can be read. -/
class RecordSource (σ : Type) (α : outParam Type) where
  /-- The records of a keyspace, if it exists. -/
  scan? : σ → String → Option (Scan α)

def RecordSource.items {σ α : Type} [RecordSource σ α] (source : σ) (keyspace : String) : List α :=
  (Scan.toSequence (scan? source keyspace)).items

end RecordQuery
