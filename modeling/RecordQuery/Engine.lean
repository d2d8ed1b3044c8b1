import RecordQuery.Filter.Clause
import RecordQuery.Query.Run
import RecordQuery.Regex.Standard
import RecordQuery.Store.Scan

/-!
# Query engines

An engine runs queries on the keyspaces of one source. It keeps a registry, through which all
filters and orders built by it share their paths. A call that fails may still have registered paths.
-/

namespace RecordQuery

structure Engine (σ : Type) where
  source : Option σ
  paths : PathRegistry

/-- Calls on an engine. What they do to it remains when they fail. -/
abbrev EngineM (σ : Type) := ExceptT QueryError (StateM (Engine σ))

namespace Engine

variable {σ α : Type} [Regex.Library]

def detached : Engine σ := ⟨none, .empty⟩

def ofSource (source : σ) : Engine σ := ⟨some source, .empty⟩

def isAttached (e : Engine σ) : Bool := e.source.isSome

def debugText (e : Engine σ) : String :=
  s!"QueryEngine \x7b attached: {e.isAttached}, paths: {e.paths.debugText} \x7d"

/-- Gives the engine its source. It takes one only. -/
def attach (source : σ) : EngineM σ Unit := do
  let e ← get
  if e.isAttached then throw .alreadyAttached
  set { e with source := some source }

def attached : EngineM σ σ := do
  match (← get).source with
  | some source => return source
  | none => throw .notAttached

/-- Runs a computation on the registry of the engine. -/
def withPaths {β : Type} (x : PathM β) : EngineM σ β := fun e =>
  let (result, paths) := x.run.run e.paths
  (result, { e with paths })

/-- Runs a computation on the memory of all path objects. -/
def withMemory {β : Type} (x : SlotM β) : EngineM σ β := withPaths (PathRegistry.withMemory x)

def path (dotted : String) : EngineM σ SharedPath := withPaths (PathRegistry.intern dotted)

def filter (clauses : List Clause) (args : List Argument) : EngineM σ (Option Filter) :=
  withPaths (Filter.assemble clauses args)

def order (keys : List SortKey) : EngineM σ RecordOrder := withPaths (RecordOrder.ofKeys keys)

/-- Whether a record passes an optional filter. -/
def accepts (f : Option Filter) (r : Record) : EngineM σ Bool :=
  withMemory (Filter.acceptsVia .shared f r)

variable [RecordSource σ α] [HasRecord α]

/-- The records of a keyspace that a query asks for. -/
def select (q : Query) (keyspace : String) : EngineM σ (List α) := do
  let source ← attached
  let order ← order q.keys
  withMemory (q.selectVia .shared order (RecordSource.items source keyspace))

def count (f : Option Filter) (keyspace : String) : EngineM σ Nat := do
  let source ← attached
  withMemory (Query.countVia .shared f (RecordSource.items source keyspace))

end Engine

end RecordQuery
