import RecordQuery.Path.Cached

/-!
# Path objects

One path can be in use as several objects, each of which remembers slots of its own. An object is
told from the others by its handle. `SlotMemory` keeps what all objects remember; an object that
does not occur in it has met no record yet.
-/

namespace RecordQuery

structure SharedPath where
  handle : Nat
  path : PropertyPath
  deriving DecidableEq

/-- A path in use without a registry is the object with handle 0. -/
instance : Coe PropertyPath SharedPath := ⟨fun path => ⟨0, path⟩⟩

/-- What path objects remember, the object resolved last in front. -/
structure SlotMemory where
  objects : List (SharedPath × CachedPath)
  /-- The handle of the next object made. -/
  next : Nat

/-- Computations that resolve path objects. What the objects remember remains when they fail. -/
abbrev SlotM := ExceptT QueryError (StateM SlotMemory)

namespace SlotMemory

def empty : SlotMemory := ⟨[], 1⟩

def current (m : SlotMemory) (p : SharedPath) : CachedPath :=
  (m.objects.lookup p).getD (.ofPath p.path)

def store (m : SlotMemory) (p : SharedPath) (c : CachedPath) : SlotMemory :=
  { m with objects := (p, c) :: m.objects.filter fun e => e.1 != p }

def create (m : SlotMemory) (path : PropertyPath) : SharedPath × SlotMemory :=
  (⟨m.next, path⟩, { m with next := m.next + 1 })

end SlotMemory

namespace SharedPath

def dotted (p : SharedPath) : String := p.path.dotted

/-- The value at the path, read through the slots that the object remembers. -/
def resolve (p : SharedPath) (r : Record) : SlotM (Option Value) := fun m =>
  let (result, c) := (m.current p).resolve r
  (result, m.store p c)

end SharedPath

end RecordQuery
