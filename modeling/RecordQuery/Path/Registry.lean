import RecordQuery.Path.Shared

/-!
# Registries of paths

A registry holds one path object for each dotted text, in the order of first request. With it goes
the memory of all path objects in use, also of those that come from other registries.
-/

namespace RecordQuery

structure PathRegistry where
  paths : List SharedPath
  memory : SlotMemory

/-- Computations that use a registry. What they do to it remains when they fail. -/
abbrev PathM := ExceptT QueryError (StateM PathRegistry)

namespace PathRegistry

def empty : PathRegistry := ⟨[], .empty⟩

def size (g : PathRegistry) : Nat := g.paths.length

def isEmpty (g : PathRegistry) : Bool := g.paths.isEmpty

/-- The object with the given text. -/
def find? (g : PathRegistry) (dotted : String) : Option SharedPath :=
  g.paths.find? fun p => p.dotted == dotted

/-- The shared path for a dotted text, made on first request. A text that is no path leaves the
registry as it is. -/
def intern (dotted : String) : PathM SharedPath := do
  let g ← get
  match g.find? dotted with
  | some p => return p
  | none =>
    let path ← PropertyPath.parse dotted
    let (p, memory) := g.memory.create path
    set (PathRegistry.mk (g.paths ++ [p]) memory)
    return p

/-- Runs a computation on the memory that goes with the registry. -/
def withMemory {β : Type} (x : SlotM β) : PathM β := fun g =>
  let (result, memory) := x.run.run g.memory
  (result, { g with memory })

def debugText (g : PathRegistry) : String := s!"PathRegistry \x7b paths: {g.size} \x7d"

end PathRegistry

end RecordQuery
