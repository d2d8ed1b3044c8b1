import RecordQuery.Store.Scan
import Std.Data.TreeMap

/-!
# Stores in memory

Records by keyspace, each keyspace in the order in which its records came. A keyspace comes into
being with the first put, also one of no records, and ends with its deletion.
-/

namespace RecordQuery

structure MemoryStore (α : Type) where
  keyspaces : Std.TreeMap String (List α)

namespace MemoryStore

variable {α : Type}

def empty : MemoryStore α := ⟨∅⟩

def get? (s : MemoryStore α) (keyspace : String) : Option (List α) := s.keyspaces[keyspace]?

def putAll (s : MemoryStore α) (keyspace : String) (items : List α) : MemoryStore α :=
  ⟨s.keyspaces.insert keyspace ((s.get? keyspace).getD [] ++ items)⟩

def put (s : MemoryStore α) (keyspace : String) (x : α) : MemoryStore α := s.putAll keyspace [x]

/-- The records of a keyspace, and the store without it. -/
def delete (s : MemoryStore α) (keyspace : String) : List α × MemoryStore α :=
  ((s.get? keyspace).getD [], ⟨s.keyspaces.erase keyspace⟩)

def names (s : MemoryStore α) : List String := s.keyspaces.keys

def size (s : MemoryStore α) (keyspace : String) : Nat := ((s.get? keyspace).getD []).length

/-- The store of records with their keyspaces. -/
def ofPairs (pairs : List (String × α)) : MemoryStore α :=
  pairs.foldl (fun s p => s.put p.1 p.2) empty

/-- A scan copies the keyspace as it stands. -/
instance : RecordSource (MemoryStore α) α := ⟨fun s keyspace => (s.get? keyspace).map .owned⟩

end MemoryStore

/-- Records by keyspace that do not change. -/
structure FixedStore (α : Type) where
  keyspaces : Std.TreeMap String (List α)

namespace FixedStore

variable {α : Type}

/-- The store of keyspaces with their records; of two with one name the later stays. -/
def ofList (keyspaces : List (String × List α)) : FixedStore α := ⟨.ofList keyspaces⟩

/-- A scan copies nothing. -/
instance : RecordSource (FixedStore α) α := ⟨fun s keyspace => s.keyspaces[keyspace]?.map .slice⟩

end FixedStore

end RecordQuery
