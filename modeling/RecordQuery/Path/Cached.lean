import RecordQuery.Path.Basic

/-!
# Paths that remember slots

Each segment remembers the slot of its attribute for every record type it has met, so that a name
is looked up once for each type. Nothing is remembered about types that lack the attribute.
-/

namespace RecordQuery

/-- An attribute name with the slots found for it, by the key of the record type. -/
structure CachedSegment where
  name : String
  slots : List (Nat × Nat)

/-- The slot of the attribute in a record, remembered from now on. -/
def CachedSegment.slot (s : CachedSegment) (r : Record) : Except QueryError Nat × CachedSegment :=
  match s.slots.lookup r.type.key with
  | some slot => (.ok slot, s)
  | none =>
    match r.type.slotOf? s.name with
    | some slot => (.ok slot, { s with slots := (r.type.key, slot) :: s.slots })
    | none => (.error (.unknownAttribute s.name r.type.name), s)

structure CachedPath where
  path : PropertyPath
  segments : List CachedSegment

namespace CachedPath

def ofPath (p : PropertyPath) : CachedPath := ⟨p, p.segments.map fun name => ⟨name, []⟩⟩

/-- Follows segments from a record, through the slots they remember. -/
def follow : List CachedSegment → Record → Except QueryError (Option Value) × List CachedSegment
  | [], _ => (.ok none, [])
  | s :: rest, r =>
    match s.slot r with
    | (.error e, s) => (.error e, s :: rest)
    | (.ok slot, s) =>
      let v := r.valueAt slot
      if v.isNull then (.ok none, s :: rest)
      else match rest with
        | [] => (.ok (some v), [s])
        | next :: _ =>
          match v.toRecord? with
          | some inner =>
            let (result, rest) := follow rest inner
            (result, s :: rest)
          | none => (.error (.notARecord next.name v.kind), s :: rest)

/-- The value at the path, and the path with what it remembers now. -/
def resolve (p : CachedPath) (r : Record) : Except QueryError (Option Value) × CachedPath :=
  let (result, segments) := follow p.segments r
  (result, { p with segments })

end CachedPath

end RecordQuery
