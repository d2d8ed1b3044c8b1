import RecordQuery.Proofs.Path.Concatenation
import RecordQuery.Proofs.Path.Registry

/-!
# Registries that grow

A registry only grows: the path objects it has stay as they are, each text asked for that is a path
and has none gets one object, and what path objects remember of records is left alone.
-/

namespace RecordQuery

/-- The text reads as a path. -/
def IsPath (dotted : String) : Prop := ∃ path, PropertyPath.parse dotted = .ok path

theorem PropertyPath.parse_cases (dotted : String) :
    (∃ path, parse dotted = .ok path) ∨
      parse dotted = .error (.invalidPath dotted) ∧ ¬IsPath dotted := by
  by_cases h : IsPath dotted
  · exact .inl h
  · unfold IsPath at h
    rw [exists_parse_iff] at h
    exact .inr ⟨dif_neg h, mt exists_parse_iff.mp h⟩

namespace PathRegistry

def texts (g : PathRegistry) : List String := g.paths.map SharedPath.dotted

theorem notMem_texts_iff {g : PathRegistry} {dotted : String} :
    dotted ∉ g.texts ↔ g.find? dotted = none := by
  unfold texts find?
  rw [List.find?_eq_none, List.mem_map]
  constructor
  · intro h p hp hsame
    exact h ⟨p, hp, by simpa using hsame⟩
  · rintro h ⟨p, hp, rfl⟩
    exact h p hp (by simp)

/-- Every text of the first registry has the same path object in the second. -/
def Extends (g g' : PathRegistry) : Prop :=
  ∀ dotted p, g.find? dotted = some p → g'.find? dotted = some p

theorem Extends.refl (g : PathRegistry) : g.Extends g := fun _ _ h => h

theorem Extends.trans {g₁ g₂ g₃ : PathRegistry} (h : g₁.Extends g₂) (h' : g₂.Extends g₃) :
    g₁.Extends g₃ := fun dotted p hp => h' dotted p (h dotted p hp)

/-- The second registry is the first one with an object for each of the asked texts that had none,
and nothing else. -/
structure Grows (asked : String → Prop) (g g' : PathRegistry) : Prop where
  paths : ∃ added, g'.paths = g.paths ++ added ∧ (added.map SharedPath.dotted).Nodup ∧
    ∀ dotted, dotted ∈ added.map SharedPath.dotted ↔ asked dotted ∧ dotted ∉ g.texts
  objects : g'.memory.objects = g.memory.objects

namespace Grows

variable {asked asked' : String → Prop} {g g₁ g₂ : PathRegistry}

theorem of_known (h : ∀ dotted, asked dotted → dotted ∈ g.texts) : Grows asked g g := by
  refine ⟨⟨[], (List.append_nil _).symm, .nil, fun dotted => ?_⟩, rfl⟩
  simpa using h dotted

theorem congr (h : Grows asked g g₁) (heq : ∀ dotted, asked dotted ↔ asked' dotted) :
    Grows asked' g g₁ := by
  have hasked : asked = asked' := funext fun dotted => propext (heq dotted)
  exact hasked ▸ h

theorem mem_texts_iff (h : Grows asked g g₁) {dotted : String} :
    dotted ∈ g₁.texts ↔ dotted ∈ g.texts ∨ asked dotted := by
  obtain ⟨added, hpaths, -, hadded⟩ := h.paths
  unfold texts at hadded ⊢
  rw [hpaths, List.map_append, List.mem_append, hadded]
  by_cases hold : dotted ∈ g.paths.map SharedPath.dotted
  · simp [hold]
  · simp [hold]

theorem trans (h : Grows asked g g₁) (h' : Grows asked' g₁ g₂) :
    Grows (fun dotted => asked dotted ∨ asked' dotted) g g₂ := by
  obtain ⟨added, hpaths, hnodup, hadded⟩ := h.paths
  obtain ⟨added', hpaths', hnodup', hadded'⟩ := h'.paths
  refine ⟨⟨added ++ added', ?_, ?_, fun dotted => ?_⟩, h'.objects.trans h.objects⟩
  · rw [hpaths', hpaths, List.append_assoc]
  · rw [List.map_append, List.nodup_append']
    refine ⟨hnodup, hnodup', fun dotted hfirst hsecond => ?_⟩
    -- what the second part adds was not there after the first one
    have hasked := (hadded dotted).mp hfirst
    exact ((hadded' dotted).mp hsecond).2 (h.mem_texts_iff.mpr (.inr hasked.1))
  · rw [List.map_append, List.mem_append, hadded, hadded', h.mem_texts_iff]
    by_cases hasked : asked dotted
    · simp [hasked]
    · simp [hasked]

theorem nodup_texts (h : Grows asked g g₁) (hg : g.texts.Nodup) : g₁.texts.Nodup := by
  obtain ⟨added, hpaths, hnodup, hadded⟩ := h.paths
  unfold texts at hg hadded ⊢
  rw [hpaths, List.map_append, List.nodup_append']
  exact ⟨hg, hnodup, fun dotted hold hnew => ((hadded dotted).mp hnew).2 hold⟩

end Grows

theorem Extends.of_grows {asked : String → Prop} {g g' : PathRegistry} (h : Grows asked g g') :
    g.Extends g' := by
  intro dotted p hp
  obtain ⟨added, hpaths, -, -⟩ := h.paths
  unfold find? at hp ⊢
  rw [hpaths, List.find?_append, hp, Option.some_or]

theorem intern_grows (dotted : String) (g : PathRegistry) :
    Grows (fun text => text = dotted ∧ IsPath dotted) g ((intern dotted).run.run g).2 := by
  rw [intern_run]
  cases hfind : g.find? dotted with
  | some p =>
    apply Grows.of_known
    rintro text ⟨rfl, -⟩
    by_contra hnew
    cases (notMem_texts_iff.mp hnew).symm.trans hfind
  | none =>
    have hnew : dotted ∉ g.texts := notMem_texts_iff.mpr hfind
    rcases PropertyPath.parse_cases dotted with ⟨path, hparse⟩ | ⟨hparse, hinvalid⟩
    · rw [hparse]
      refine ⟨⟨[(g.memory.create path).1], rfl, List.nodup_singleton _, fun text => ?_⟩, rfl⟩
      have htext : ((g.memory.create path).1).dotted = dotted :=
        PropertyPath.parse_eq_ok_iff.mp hparse
      rw [List.map_singleton, htext, List.mem_singleton]
      constructor
      · rintro rfl
        exact ⟨⟨rfl, path, hparse⟩, hnew⟩
      · exact fun h => h.1.1
    · rw [hparse]
      exact Grows.of_known fun _ h => absurd h.2 hinvalid

theorem extends_of_intern {dotted : String} {g g' : PathRegistry} {p : SharedPath}
    (h : (intern dotted).run.run g = (.ok p, g')) :
    g.Extends g' ∧ g'.find? dotted = some p := by
  have hgrows := intern_grows dotted g
  rw [h] at hgrows
  refine ⟨.of_grows hgrows, ?_⟩
  rw [intern_run] at h
  cases hfind : g.find? dotted with
  | some found =>
    rw [hfind] at h
    cases h
    exact hfind
  | none =>
    rw [hfind] at h
    cases hparse : PropertyPath.parse dotted with
    | error e =>
      rw [hparse] at h
      cases h
    | ok path =>
      rw [hparse] at h
      cases h
      unfold find? at hfind ⊢
      rw [List.find?_append, hfind, Option.none_or]
      simp [SlotMemory.create, SharedPath.dotted, PropertyPath.parse_eq_ok_iff.mp hparse]

theorem intern_result (dotted : String) (g : PathRegistry) :
    (∃ p, ((intern dotted).run.run g).1 = .ok p ∧ IsPath dotted) ∨
      ((intern dotted).run.run g).1 = .error (.invalidPath dotted) ∧ ¬IsPath dotted := by
  have hresult := intern_path dotted g
  generalize ((intern dotted).run.run g).1 = result at hresult ⊢
  rcases PropertyPath.parse_cases dotted with ⟨path, hparse⟩ | ⟨hparse, hinvalid⟩
  · rw [hparse] at hresult
    cases result with
    | error e => cases hresult
    | ok p => exact .inl ⟨p, rfl, path, hparse⟩
  · rw [hparse] at hresult
    cases result with
    | error e =>
      cases hresult
      exact .inr ⟨rfl, hinvalid⟩
    | ok p => cases hresult

end PathRegistry

end RecordQuery
