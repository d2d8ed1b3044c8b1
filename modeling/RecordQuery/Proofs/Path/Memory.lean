import Mathlib
import RecordQuery.Path.Shared

/-!
# What paths remember

A catalog gives every record type its attribute list. Records conform to it when the records that
paths can reach in them have the lists of their types. A memory is sound when every slot in it is
the first position of the segment's name in the list of the type. Resolving keeps a memory sound,
and what it gives does not depend on what a sound memory holds.
-/

namespace RecordQuery

/-- The attribute list of every record type, by the key of the type. -/
abbrev Catalog := Nat → List String

mutual

/-- The record that a value is, and those nested in it, have the lists of the catalog. -/
def Value.Conforms (c : Catalog) : Value → Prop
  | .record type values => type.attributes = c type.key ∧ allConform c values
  | _ => True
termination_by structural v => v

def allConform (c : Catalog) : List Value → Prop
  | [] => True
  | v :: rest => v.Conforms c ∧ allConform c rest
termination_by structural values => values

end

def Record.Conforms (c : Catalog) (r : Record) : Prop := r.toValue.Conforms c

theorem allConform_iff {c : Catalog} {values : List Value} :
    allConform c values ↔ ∀ v ∈ values, v.Conforms c := by
  induction values with
  | nil => simp [allConform]
  | cons v rest ih => simp [allConform, ih]

theorem Record.Conforms.attributes {c : Catalog} {r : Record} (h : r.Conforms c) :
    r.type.attributes = c r.type.key := by
  unfold Record.Conforms toValue Value.Conforms at h
  exact h.1

theorem Record.Conforms.valueAt {c : Catalog} {r : Record} (h : r.Conforms c) (slot : Nat) :
    (r.valueAt slot).Conforms c := by
  unfold Record.Conforms toValue Value.Conforms at h
  unfold Record.valueAt
  rw [List.getD_eq_getElem?_getD]
  cases hv : r.values[slot]? with
  | none => trivial
  | some v => exact allConform_iff.mp h.2 v (List.mem_of_getElem? hv)

theorem Value.Conforms.toRecord? {c : Catalog} {v : Value} (h : v.Conforms c) {r : Record}
    (hr : v.toRecord? = some r) : r.Conforms c := by
  cases v with
  | record type values => cases hr; exact h
  | _ => cases hr

/-! ## Slots -/

/-- A name stands in a list at this position and at none before it. -/
def FirstAt (names : List String) (name : String) (i : Nat) : Prop :=
  names[i]? = some name ∧ ∀ j < i, names[j]? ≠ some name

theorem RecordType.slotOf?_eq_some_iff {t : RecordType} {name : String} {i : Nat} :
    t.slotOf? name = some i ↔ FirstAt t.attributes name i := by
  unfold slotOf? FirstAt
  rw [List.findIdx?_eq_some_iff_getElem]
  constructor
  · rintro ⟨hi, hname, hbefore⟩
    refine ⟨by simpa [List.getElem?_eq_getElem hi] using hname, fun j hj => ?_⟩
    have hne := hbefore j hj
    rw [List.getElem?_eq_getElem (by omega)]
    simpa using hne
  · rintro ⟨hname, hbefore⟩
    obtain ⟨hi, he⟩ := List.getElem?_eq_some_iff.mp hname
    refine ⟨hi, by simpa using he, fun j hj => ?_⟩
    have hne := hbefore j hj
    rw [List.getElem?_eq_getElem (by omega)] at hne
    simpa using hne

theorem mem_of_lookup {α β : Type} [BEq α] [LawfulBEq α] {k : α} {v : β} {entries : List (α × β)}
    (h : entries.lookup k = some v) : (k, v) ∈ entries := by
  obtain ⟨before, after, rfl, -⟩ := List.lookup_eq_some_iff.mp h
  simp

/-- A segment of this name that remembers first positions only. -/
def CachedSegment.Sound (c : Catalog) (s : CachedSegment) (name : String) : Prop :=
  s.name = name ∧ ∀ e ∈ s.slots, FirstAt (c e.1) name e.2

/-- The slot of an attribute by its name alone. -/
def plainSlot (name : String) (r : Record) : Except QueryError Nat :=
  match r.type.slotOf? name with
  | some slot => .ok slot
  | none => .error (.unknownAttribute name r.type.name)

theorem PropertyPath.step_eq (name : String) (r : Record) :
    step name r = (plainSlot name r).map r.valueAt := by
  unfold step plainSlot Record.get?
  cases r.type.slotOf? name <;> rfl

theorem CachedSegment.slot_fst {c : Catalog} {s : CachedSegment} {name : String}
    (hs : s.Sound c name) {r : Record} (hr : r.Conforms c) : (s.slot r).1 = plainSlot name r := by
  obtain ⟨rfl, hslots⟩ := hs
  unfold slot plainSlot
  cases hlook : s.slots.lookup r.type.key with
  | some slot =>
    have hfirst : FirstAt r.type.attributes s.name slot :=
      hr.attributes ▸ hslots _ (mem_of_lookup hlook)
    rw [RecordType.slotOf?_eq_some_iff.mpr hfirst]
  | none => cases r.type.slotOf? s.name <;> rfl

theorem CachedSegment.slot_sound {c : Catalog} {s : CachedSegment} {name : String}
    (hs : s.Sound c name) {r : Record} (hr : r.Conforms c) : (s.slot r).2.Sound c name := by
  obtain ⟨rfl, hslots⟩ := hs
  unfold slot
  split
  · exact ⟨rfl, hslots⟩
  · split
    · rename_i slot hslot
      refine ⟨rfl, fun e he => ?_⟩
      rcases List.mem_cons.mp he with rfl | he
      · exact hr.attributes ▸ RecordType.slotOf?_eq_some_iff.mp hslot
      · exact hslots e he
    · exact ⟨rfl, hslots⟩

theorem CachedSegment.slot_of_error {s s' : CachedSegment} {r : Record} {e : QueryError}
    (h : s.slot r = (.error e, s')) : s' = s ∧ e = .unknownAttribute s.name r.type.name := by
  unfold slot at h
  split at h
  · cases h
  · split at h
    · cases h
    · cases h
      exact ⟨rfl, rfl⟩

/-! ## Objects -/

/-- The segments have the names of the path and remember first positions only. -/
def CachedPath.Sound (c : Catalog) (p : CachedPath) : Prop :=
  List.Forall₂ (CachedSegment.Sound c) p.segments p.path.segments

theorem CachedPath.ofPath_sound (c : Catalog) (p : PropertyPath) :
    (CachedPath.ofPath p).Sound c := by
  unfold CachedPath.Sound ofPath
  rw [List.forall₂_map_left_iff, List.forall₂_same]
  intro name _
  exact ⟨rfl, fun e he => by cases he⟩

/-- Slots that are remembered lead to the same value as the names do, and what is remembered on
the way is sound. -/
theorem CachedPath.follow_spec {c : Catalog} {segments : List CachedSegment} {names : List String}
    (hs : List.Forall₂ (CachedSegment.Sound c) segments names) {r : Record} (hr : r.Conforms c) :
    (follow segments r).1 = PropertyPath.follow names r ∧
      List.Forall₂ (CachedSegment.Sound c) (follow segments r).2 names := by
  induction hs generalizing r with
  | nil => exact ⟨rfl, .nil⟩
  | @cons s name rest names hs hrest ih =>
    have hfst := CachedSegment.slot_fst hs hr
    have hsound := CachedSegment.slot_sound hs hr
    rw [PropertyPath.follow, PropertyPath.step_eq, ← hfst, follow]
    clear hfst
    generalize s.slot r = found at hsound ⊢
    obtain ⟨_ | slot, s'⟩ := found
    · exact ⟨rfl, .cons hsound hrest⟩
    simp only [Except.map, bind, Except.bind]
    cases (r.valueAt slot).isNull with
    | true => exact ⟨rfl, .cons hsound hrest⟩
    | false =>
      cases hrest with
      | nil => exact ⟨rfl, .cons hsound .nil⟩
      | @cons next nextName rest names hnext hrest =>
        cases hinner : (r.valueAt slot).toRecord? with
        | none =>
          obtain ⟨rfl, hslots⟩ := hnext
          exact ⟨rfl, .cons hsound (.cons ⟨rfl, hslots⟩ hrest)⟩
        | some inner =>
          obtain ⟨hresult, hafter⟩ := ih ((hr.valueAt slot).toRecord? hinner)
          exact ⟨hresult, .cons hsound hafter⟩

theorem CachedPath.resolve_spec {c : Catalog} {p : CachedPath} (hp : p.Sound c) {r : Record}
    (hr : r.Conforms c) :
    (p.resolve r).1 = p.path.resolve r ∧ (p.resolve r).2.path = p.path ∧
      (p.resolve r).2.Sound c := by
  obtain ⟨hresult, hafter⟩ := follow_spec hp hr
  exact ⟨hresult, rfl, hafter⟩

theorem names_of_sound {c : Catalog} {segments : List CachedSegment} {names : List String}
    (h : List.Forall₂ (CachedSegment.Sound c) segments names) :
    segments.map CachedSegment.name = names := by
  induction h with
  | nil => rfl
  | cons hs _ ih => rw [List.map_cons, hs.1, ih]

theorem firstAt_of_sound {c : Catalog} {segments : List CachedSegment} {names : List String}
    (h : List.Forall₂ (CachedSegment.Sound c) segments names) {s : CachedSegment}
    (hs : s ∈ segments) : ∀ e ∈ s.slots, FirstAt (c e.1) s.name e.2 := by
  induction h with
  | nil => cases hs
  | cons hhead _ ih =>
    rcases List.mem_cons.mp hs with rfl | hs
    · exact hhead.1 ▸ hhead.2
    · exact ih hs

theorem CachedPath.follow_of_unknown {segments : List CachedSegment} {r : Record}
    {name type : String} (h : (follow segments r).1 = .error (.unknownAttribute name type)) :
    ∃ i, (segments[i]?).map CachedSegment.name = some name ∧
      (follow segments r).2.drop i = segments.drop i := by
  induction segments generalizing r with
  | nil => cases h
  | cons s rest ih =>
    rw [follow] at h ⊢
    cases hslot : s.slot r with
    | mk found s' =>
      rw [hslot] at h
      cases found with
      | error e =>
        obtain ⟨rfl, rfl⟩ := CachedSegment.slot_of_error hslot
        cases h
        exact ⟨0, rfl, rfl⟩
      | ok slot =>
        simp only at h ⊢
        cases hnull : (r.valueAt slot).isNull with
        | true => simp [hnull] at h
        | false =>
          rw [hnull] at h
          cases rest with
          | nil => cases h
          | cons next rest =>
            cases hinner : (r.valueAt slot).toRecord? with
            | none => rw [hinner] at h; cases h
            | some inner =>
              rw [hinner] at h
              obtain ⟨i, hname, hdrop⟩ := ih h
              exact ⟨i + 1, hname, hdrop⟩

/-! ## Memories -/

/-- Every object in the memory has its own path and remembers first positions only. -/
def SlotMemory.Sound (c : Catalog) (m : SlotMemory) : Prop :=
  ∀ e ∈ m.objects, e.2.path = e.1.path ∧ e.2.Sound c

namespace SlotMemory

variable {c : Catalog} {m : SlotMemory}

theorem empty_sound (c : Catalog) : empty.Sound c := fun _ he => by cases he

theorem Sound.current (h : m.Sound c) (p : SharedPath) :
    (m.current p).path = p.path ∧ (m.current p).Sound c := by
  unfold SlotMemory.current
  cases hlook : m.objects.lookup p with
  | none => exact ⟨rfl, CachedPath.ofPath_sound c p.path⟩
  | some found => exact h (p, found) (mem_of_lookup hlook)

theorem Sound.store (h : m.Sound c) {p : SharedPath} {found : CachedPath}
    (hpath : found.path = p.path) (hs : found.Sound c) : (m.store p found).Sound c := by
  intro e he
  rcases List.mem_cons.mp he with rfl | he
  · exact ⟨hpath, hs⟩
  · exact h e (List.mem_filter.mp he).1

@[simp] theorem current_store (m : SlotMemory) (p : SharedPath) (found : CachedPath) :
    (m.store p found).current p = found := by
  simp [SlotMemory.current, SlotMemory.store]

theorem Sound.create (h : m.Sound c) (path : PropertyPath) : (m.create path).2.Sound c := h

end SlotMemory

/-- What an object gives from a sound memory is the value by names alone. -/
theorem SharedPath.resolve_spec {c : Catalog} {m : SlotMemory} (hm : m.Sound c) (p : SharedPath)
    {r : Record} (hr : r.Conforms c) :
    ((p.resolve r).run.run m).1 = p.path.resolve r ∧ ((p.resolve r).run.run m).2.Sound c := by
  obtain ⟨hpath, hsound⟩ := hm.current p
  obtain ⟨hresult, hpath', hafter⟩ := CachedPath.resolve_spec hsound hr
  exact ⟨hpath ▸ hresult, hm.store (hpath'.trans hpath) hafter⟩

theorem SharedPath.current_resolve (m : SlotMemory) (p : SharedPath) (r : Record) :
    ((p.resolve r).run.run m).2.current p = ((m.current p).resolve r).2 :=
  SlotMemory.current_store m p _

/-- Resolves objects one after another, also past failures. -/
def SharedPath.resolveAll (calls : List (SharedPath × Record)) :
    StateM SlotMemory (List (Except QueryError (Option Value))) :=
  calls.mapM fun call => (call.1.resolve call.2).run

theorem SharedPath.resolveAll_spec {c : Catalog} {calls : List (SharedPath × Record)}
    (h : ∀ call ∈ calls, call.2.Conforms c) {m : SlotMemory} (hm : m.Sound c) :
    ((resolveAll calls).run m).1 = calls.map (fun call => call.1.path.resolve call.2) ∧
      ((resolveAll calls).run m).2.Sound c := by
  induction calls generalizing m with
  | nil => exact ⟨rfl, hm⟩
  | cons call rest ih =>
    obtain ⟨hcall, hrest⟩ := List.forall_mem_cons.mp h
    obtain ⟨hresult, hafter⟩ := call.1.resolve_spec hm hcall
    obtain ⟨hresults, hend⟩ := ih hrest hafter
    unfold resolveAll at hresults hend ⊢
    rw [List.mapM_cons]
    exact ⟨congrArg₂ List.cons hresult hresults, hend⟩

/-- Objects give what fresh ones give, whatever was resolved before. -/
theorem SharedPath.resolveAll_eq_fresh (c : Catalog) (calls : List (SharedPath × Record))
    (h : ∀ call ∈ calls, call.2.Conforms c) :
    ((resolveAll calls).run .empty).1 =
        calls.map (fun call => ((CachedPath.ofPath call.1.path).resolve call.2).1) ∧
      let m := ((resolveAll calls).run .empty).2
      (∀ e ∈ m.objects, e.2.segments.map CachedSegment.name = e.1.path.segments ∧
        ∀ s ∈ e.2.segments, ∀ known ∈ s.slots, FirstAt (c known.1) s.name known.2) ∧
      ∀ (p : SharedPath) (r : Record) (name type : String),
        ((p.resolve r).run.run m).1 = .error (.unknownAttribute name type) →
        ∃ i, ((m.current p).segments[i]?).map CachedSegment.name = some name ∧
          (((p.resolve r).run.run m).2.current p).segments.drop i =
            (m.current p).segments.drop i := by
  obtain ⟨hresults, hsound⟩ := resolveAll_spec h (SlotMemory.empty_sound c)
  refine ⟨?_, fun e he => ?_, fun p r name type hunknown => ?_⟩
  · rw [hresults]
    refine List.map_congr_left fun call hcall => ?_
    exact (CachedPath.resolve_spec (CachedPath.ofPath_sound c call.1.path) (h call hcall)).1.symm
  · obtain ⟨hpath, hs⟩ := hsound e he
    exact ⟨hpath ▸ names_of_sound hs, fun _ => firstAt_of_sound hs⟩
  · obtain ⟨i, hname, hdrop⟩ := CachedPath.follow_of_unknown hunknown
    exact ⟨i, hname, by rw [p.current_resolve]; exact hdrop⟩

/-- One object meets types of one name that hold its attribute at different slots, or lack it. -/
theorem SharedPath.resolveAll_three_types :
    let c : Catalog := fun key => [["a", "b"], ["b", "a", "b"], ["a"]].getD key []
    let p : SharedPath := ⟨0, ⟨"b", by decide⟩⟩
    let record (key : Nat) : Record := ⟨⟨key, "T", c key⟩, [.bool true, .bool false]⟩
    let calls := [(p, record 0), (p, record 1), (p, record 2), (p, record 0)]
    (∀ call ∈ calls, call.2.Conforms c) ∧
      ((resolveAll calls).run .empty).1 = [.ok (some (.bool false)), .ok (some (.bool true)),
        .error (.unknownAttribute "b" "T"), .ok (some (.bool false))] := by
  intro c p record calls
  have hconform : ∀ call ∈ calls, call.2.Conforms c := by
    simp [calls, record, Record.Conforms, Record.toValue, Value.Conforms, allConform]
  exact ⟨hconform, (resolveAll_eq_fresh c calls hconform).1.trans (by cbv)⟩

end RecordQuery
