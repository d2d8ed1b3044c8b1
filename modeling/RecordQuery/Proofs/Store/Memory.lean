import Mathlib.Data.String.Basic
import RecordQuery.Store.Memory

/-!
# Stores in memory by keyspace

What each operation of a store does to each keyspace.
-/

namespace RecordQuery.MemoryStore

variable {α : Type}

@[simp] theorem get?_empty (keyspace : String) :
    (empty : MemoryStore α).get? keyspace = none := Std.TreeMap.getElem?_emptyc

theorem get?_putAll (s : MemoryStore α) (keyspace : String) (items : List α) (other : String) :
    (s.putAll keyspace items).get? other =
      if keyspace = other then some ((s.get? keyspace).getD [] ++ items) else s.get? other := by
  simp [putAll, get?, Std.TreeMap.getElem?_insert]

theorem get?_delete (s : MemoryStore α) (keyspace other : String) :
    (s.delete keyspace).2.get? other = if keyspace = other then none else s.get? other := by
  simp [delete, get?, Std.TreeMap.getElem?_erase]

theorem mem_names_iff {s : MemoryStore α} {keyspace : String} :
    keyspace ∈ s.names ↔ (s.get? keyspace).isSome = true := by
  unfold names get?
  rw [Std.TreeMap.mem_keys, Std.TreeMap.mem_iff_isSome_getElem?]

theorem names_increasing (s : MemoryStore α) : s.names.Pairwise (· < ·) :=
  s.keyspaces.ordered_keys.imp compare_lt_iff_lt.mp

theorem items_eq (s : MemoryStore α) (keyspace : String) :
    RecordSource.items s keyspace = (s.get? keyspace).getD [] := by
  show (Scan.toSequence ((s.get? keyspace).map .owned)).items = _
  cases s.get? keyspace <;> rfl

end RecordQuery.MemoryStore
