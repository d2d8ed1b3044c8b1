import RecordQuery.Proofs.Store.History

/-!
# Keyspaces that hold records

The names of a store are those of its keyspaces, and a batch of no records brings a keyspace into
being that holds none. It is listed until it is deleted or records come to it; every other keyspace
is listed exactly if it holds records.
-/

namespace RecordQuery.MemoryStore

variable {α : Type}

/-! ## One change -/

/-- The names are those of the keyspaces that hold records. -/
def ListsHolding (s : MemoryStore α) : Prop := ∀ keyspace, keyspace ∈ s.names ↔ 0 < s.size keyspace

theorem size_eq (s : MemoryStore α) (keyspace : String) :
    s.size keyspace = ((s.get? keyspace).getD []).length := rfl

theorem mem_names_of_size_pos {s : MemoryStore α} {keyspace : String}
    (h : 0 < s.size keyspace) : keyspace ∈ s.names := by
  rw [size_eq] at h
  rw [mem_names_iff]
  cases hfound : s.get? keyspace with
  | none => simp [hfound] at h
  | some items => rfl

theorem mem_names_and_size_eq_zero_iff {s : MemoryStore α} {keyspace : String} :
    keyspace ∈ s.names ∧ s.size keyspace = 0 ↔ s.get? keyspace = some [] := by
  rw [mem_names_iff, size_eq]
  cases s.get? keyspace <;> simp

theorem listsHolding_iff {s : MemoryStore α} :
    s.ListsHolding ↔ ∀ keyspace, s.get? keyspace ≠ some [] := by
  refine forall_congr' fun keyspace => ?_
  rw [ne_eq, ← mem_names_and_size_eq_zero_iff]
  constructor
  · rintro h ⟨hlisted, hsize⟩
    exact absurd (h.mp hlisted) (by omega)
  · intro h
    refine ⟨fun hlisted => ?_, mem_names_of_size_pos⟩
    have hsize : s.size keyspace ≠ 0 := fun hsize => h ⟨hlisted, hsize⟩
    omega

theorem Change.update_eq_some_nil_iff {found : Option (List α)} {c : Change α} :
    c.update found = some [] ↔ c = .putAll c.keyspace [] ∧ found.getD [] = [] := by
  cases c <;> simp [Change.update, Change.isDeletion, Change.items, Change.keyspace, and_comm]

/-- Of all changes only a batch of no records for a new keyspace lists a name without records. -/
theorem ListsHolding.apply_iff {s : MemoryStore α} (h : s.ListsHolding) (c : Change α) :
    (c.apply s).ListsHolding ↔ ¬(c = .putAll c.keyspace [] ∧ c.keyspace ∉ s.names) := by
  have hrest := listsHolding_iff.mp h
  have hown : (s.get? c.keyspace).getD [] = [] ↔ c.keyspace ∉ s.names := by
    rw [mem_names_iff]
    cases hfound : s.get? c.keyspace with
    | none => simp
    | some items =>
      have hitems : items ≠ [] := fun hnil => hrest c.keyspace (hnil ▸ hfound)
      simpa using hitems
  rw [← hown, ← Change.update_eq_some_nil_iff, listsHolding_iff]
  constructor
  · intro hafter hown
    refine hafter c.keyspace ?_
    rw [Change.get?_apply, if_pos rfl, hown]
  · intro hown keyspace
    rw [Change.get?_apply]
    split
    · rename_i heq
      exact heq ▸ hown
    · exact hrest keyspace

/-! ## Histories -/

/-- Something was put to a keyspace since its last deletion, but only batches of no records. -/
def OnlyEmptyBatches (keyspace : String) (history : List (Change α)) : Prop :=
  recent keyspace history ≠ [] ∧ ∀ c ∈ recent keyspace history, c = .putAll keyspace []

theorem mem_recent {keyspace : String} {history : List (Change α)} {c : Change α}
    (h : c ∈ recent keyspace history) :
    c ∈ history ∧ c.keyspace = keyspace ∧ c.isDeletion = false := by
  have hown := List.mem_filter.mp ((List.rtakeWhile_suffix _ _).mem h)
  exact ⟨hown.1, by simpa using hown.2, by simpa using List.mem_rtakeWhile_imp h⟩

theorem Change.eq_putAll_nil_iff {c : Change α} {keyspace : String} (hown : c.keyspace = keyspace)
    (hkept : c.isDeletion = false) : c = .putAll keyspace [] ↔ c.items = [] := by
  subst hown
  cases c <;> simp_all [Change.items, Change.keyspace, Change.isDeletion]

theorem appended_eq_some_nil_iff {keyspace : String} {history : List (Change α)} :
    appended keyspace history = some [] ↔ OnlyEmptyBatches keyspace history := by
  have hitems : (∀ c ∈ recent keyspace history, c = .putAll keyspace []) ↔
      (recent keyspace history).flatMap Change.items = [] := by
    rw [List.flatMap_eq_nil_iff]
    refine forall₂_congr fun c hc => ?_
    obtain ⟨-, hown, hkept⟩ := mem_recent hc
    exact Change.eq_putAll_nil_iff hown hkept
  unfold OnlyEmptyBatches
  rw [hitems, appended]
  cases recent keyspace history <;> simp

theorem OnlyEmptyBatches.mem {keyspace : String} {history : List (Change α)}
    (h : OnlyEmptyBatches keyspace history) : .putAll keyspace [] ∈ history := by
  obtain ⟨hne, hall⟩ := h
  obtain ⟨c, hc⟩ := List.exists_mem_of_ne_nil _ hne
  exact hall c hc ▸ (mem_recent hc).1

theorem get?_after_ofPairs (pairs : List (String × α)) (changes : List (Change α))
    (keyspace : String) :
    ((ofPairs pairs).after changes).get? keyspace =
      appended keyspace (pairs.map (fun p => .put p.1 p.2) ++ changes) := by
  rw [ofPairs_eq, after, after, ← List.foldl_append]
  exact get?_after_empty _ keyspace

/-- The names are those of the keyspaces holding records exactly if no batch of no records made a
keyspace. -/
theorem names_hold_records_iff (pairs : List (String × α)) (changes : List (Change α)) :
    let s := (ofPairs pairs).after changes
    let history := pairs.map (fun p => .put p.1 p.2) ++ changes
    (∀ k, 0 < s.size k → k ∈ s.names) ∧
    (∀ k, k ∈ s.names ∧ s.size k = 0 ↔ OnlyEmptyBatches k history) ∧
    ((∀ k, k ∈ s.names ↔ 0 < s.size k) ↔ ∀ k, ¬OnlyEmptyBatches k history) ∧
    ((∀ k, .putAll k [] ∉ changes) → ∀ k, k ∈ s.names ↔ 0 < s.size k) ∧
    ((∀ k, k ∈ s.names ↔ 0 < s.size k) → ∀ c : Change α,
      (∀ k, k ∈ (c.apply s).names ↔ 0 < (c.apply s).size k) ↔
        ¬(c = .putAll c.keyspace [] ∧ c.keyspace ∉ s.names)) := by
  intro s history
  have hempty (k : String) : s.get? k = some [] ↔ OnlyEmptyBatches k history := by
    rw [← appended_eq_some_nil_iff, ← get?_after_ofPairs]
  have hexact : s.ListsHolding ↔ ∀ k, ¬OnlyEmptyBatches k history := by
    rw [listsHolding_iff]
    exact forall_congr' fun k => not_congr (hempty k)
  refine ⟨fun k => mem_names_of_size_pos, fun k => ?_, hexact, fun hbatches => ?_,
    fun h c => ListsHolding.apply_iff h c⟩
  · rw [mem_names_and_size_eq_zero_iff, hempty]
  · refine hexact.mpr fun k hk => ?_
    rcases List.mem_append.mp hk.mem with hpair | hchange
    · obtain ⟨p, -, hp⟩ := List.mem_map.mp hpair
      cases hp
    · exact hbatches k hchange

/-- A batch of no records lists a keyspace that holds none. -/
theorem names_list_empty_keyspace :
    let s := (ofPairs [("a", 1)]).after [.putAll "c" []]
    ¬("c" ∈ s.names ↔ 0 < s.size "c") := by
  intro s
  have hget : s.get? "c" = some [] := (get?_after_ofPairs _ _ "c").trans (by decide)
  obtain ⟨hlisted, hsize⟩ := mem_names_and_size_eq_zero_iff.mpr hget
  intro h
  exact absurd (h.mp hlisted) (by omega)

end RecordQuery.MemoryStore
