import RecordQuery.Proofs.Path.Memory
import RecordQuery.Proofs.Schema.Options

/-!
# Slots of a declaration

A derivation goes through the fields with the slots of those before. A field that is not skipped
adds one slot at the end, whose name and constant are new, and a skipped one adds none; so the slots
are those of the fields kept, in their order, and no two have one name or one constant.
-/

namespace RecordQuery

/-- The slot of a field that is kept. -/
def Field.slot (f : Field) : Slot :=
  ⟨f.name, f.attributeName, AttributeName.constant f.attributeName⟩

/-- Whether all renames that count are well formed. -/
def Field.WellRenamed (f : Field) : Prop :=
  ∀ name, f.rename? = some name → AttributeName.isRename name = true

def Field.kept (fields : List Field) : List Field := fields.filter fun f => !f.isSkipped

theorem Field.kept_cons_of_skipped {f : Field} {rest : List Field} (h : f.isSkipped = true) :
    kept (f :: rest) = kept rest := List.filter_cons_of_neg (by simp [h])

theorem Field.kept_cons_of_not_skipped {f : Field} {rest : List Field}
    (h : f.isSkipped = false) : kept (f :: rest) = f :: kept rest :=
  List.filter_cons_of_pos (by simp [h])

theorem Field.mem_kept_iff {fields : List Field} {f : Field} :
    f ∈ kept fields ↔ f ∈ fields ∧ f.isSkipped = false := by
  simp [kept]

namespace Slot

/-- No two slots have one name or one constant. -/
def Apart (slots : List Slot) : Prop :=
  slots.Pairwise fun s t => s.name ≠ t.name ∧ s.constant ≠ t.constant

theorem make_eq_ok_iff {before : List Slot} {field name : String} {s : Slot} :
    make before field name = .ok s ↔
      s = ⟨field, name, AttributeName.constant name⟩ ∧
        (∀ t ∈ before, t.name ≠ s.name ∧ t.constant ≠ s.constant) ∧
        Identifier.isValid s.constant = true := by
  have hnew : (∀ t ∈ before, t.name ≠ name ∧ t.constant ≠ AttributeName.constant name) ↔
      ¬before.any (·.name == name) = true ∧
        ¬before.any (·.constant == AttributeName.constant name) = true := by
    simp [forall_and]
  unfold make
  dsimp only
  constructor
  · intro h
    split at h
    · cases h
    split at h
    · cases h
    split at h
    · cases h
    cases h
    rename_i hname hconstant hvalid
    exact ⟨rfl, hnew.mpr ⟨hname, hconstant⟩, by simpa using hvalid⟩
  · rintro ⟨rfl, hs, hvalid⟩
    obtain ⟨hname, hconstant⟩ := hnew.mp hs
    rw [if_neg hname, if_neg hconstant, if_neg (by simpa using hvalid)]

theorem Apart.concat {before : List Slot} {field name : String} {s : Slot} (h : Apart before)
    (hs : make before field name = .ok s) : Apart (before ++ [s]) := by
  obtain ⟨-, hnew, -⟩ := make_eq_ok_iff.mp hs
  refine List.pairwise_append.mpr ⟨h, List.pairwise_singleton _ _, fun t ht u hu => ?_⟩
  rw [List.mem_singleton.mp hu]
  exact hnew t ht

theorem ofFields_cons_ok {before slots : List Slot} {f : Field} {rest : List Field}
    (h : ofFields before (f :: rest) = .ok slots) :
    f.WellRenamed ∧
      ((f.isSkipped = true ∧ ofFields before rest = .ok slots) ∨
        (f.isSkipped = false ∧ f.attributeName? = .ok (some f.attributeName) ∧
          make before f.name f.attributeName = .ok f.slot ∧
          ofFields (before ++ [f.slot]) rest = .ok slots)) := by
  obtain ⟨found, hname, hrest⟩ := exists_of_bind_ok h
  obtain ⟨hfound, hrenamed⟩ := Field.attributeName?_ok hname
  refine ⟨hrenamed, ?_⟩
  cases hskipped : f.isSkipped with
  | true =>
    obtain rfl : found = none := by simpa [hskipped] using hfound
    exact .inl ⟨rfl, hrest⟩
  | false =>
    obtain rfl : found = some f.attributeName := by simpa [hskipped] using hfound
    obtain ⟨s, hmake, hrest⟩ := exists_of_bind_ok hrest
    have hs : s = f.slot := (make_eq_ok_iff.mp hmake).1
    exact .inr ⟨rfl, hname, hs ▸ hmake, hs ▸ hrest⟩

theorem ofFields_ok {before slots : List Slot} {fields : List Field} (hbefore : Apart before)
    (h : ofFields before fields = .ok slots) :
    slots = before ++ (Field.kept fields).map Field.slot ∧ Apart slots ∧
      ∀ f ∈ fields, f.WellRenamed := by
  induction fields generalizing before with
  | nil =>
    cases h
    simpa [Field.kept] using hbefore
  | cons f rest ih =>
    obtain ⟨hrenamed, ⟨hskipped, hrest⟩ | ⟨hkept, -, hmake, hrest⟩⟩ := ofFields_cons_ok h
    · obtain ⟨hslots, hapart, hothers⟩ := ih hbefore hrest
      refine ⟨?_, hapart, List.forall_mem_cons.mpr ⟨hrenamed, hothers⟩⟩
      rw [hslots, Field.kept_cons_of_skipped hskipped]
    · obtain ⟨hslots, hapart, hothers⟩ := ih (hbefore.concat hmake) hrest
      refine ⟨?_, hapart, List.forall_mem_cons.mpr ⟨hrenamed, hothers⟩⟩
      rw [hslots, Field.kept_cons_of_not_skipped hkept, List.map_cons, List.append_assoc,
        List.singleton_append]

/-- Skipped fields could as well not be there. -/
theorem ofFields_kept {before slots : List Slot} {fields : List Field}
    (h : ofFields before fields = .ok slots) :
    ofFields before (Field.kept fields) = .ok slots := by
  induction fields generalizing before with
  | nil => exact h
  | cons f rest ih =>
    obtain ⟨-, ⟨hskipped, hrest⟩ | ⟨hkept, hname, hmake, hrest⟩⟩ := ofFields_cons_ok h
    · rw [Field.kept_cons_of_skipped hskipped]
      exact ih hrest
    · rw [Field.kept_cons_of_not_skipped hkept, ofFields, hname]
      simp only [bind, Except.bind, hmake]
      exact ih hrest

end Slot

namespace Declaration

theorem slots_named {d : Declaration} {fields : List Field} (h : d.shape = .named fields) :
    d.slots =
      if d.lifetimes.isEmpty then Slot.ofFields [] fields else .error .hasLifetimes := by
  unfold slots
  rw [h]

theorem derive_eq_ok_iff {d : Declaration} {fields : List Field} {r : Derived}
    (hshape : d.shape = .named fields) :
    d.derive = .ok r ↔ d.lifetimes.isEmpty = true ∧ Slot.ofFields [] fields = .ok r.slots ∧
      r.implementations = d.implementations := by
  obtain ⟨implementations, slots⟩ := r
  rw [derive, slots_named hshape]
  cases d.lifetimes.isEmpty with
  | false => simp [Except.map]
  | true => cases Slot.ofFields [] fields <;> simp [Except.map, eq_comm, and_comm]

theorem derive_ok {d : Declaration} {fields : List Field} {r : Derived}
    (hshape : d.shape = .named fields) (h : d.derive = .ok r) :
    r.slots = (Field.kept fields).map Field.slot ∧ Slot.Apart r.slots ∧
      ∀ f ∈ fields, f.WellRenamed :=
  Slot.ofFields_ok .nil ((derive_eq_ok_iff hshape).mp h).2.1

end Declaration

/-! ## Reading the slots -/

namespace Derived

variable {r : Derived} {i : Nat} {s : Slot}

theorem attributes_nodup (h : Slot.Apart r.slots) : r.attributes.Nodup :=
  List.pairwise_map.mpr (h.imp fun hne => hne.1)

theorem constants_nodup (h : Slot.Apart r.slots) : (r.constants.map Prod.fst).Nodup := by
  rw [constants, List.map_map]
  exact List.pairwise_map.mpr (h.imp fun hne => hne.2)

theorem getElem?_attributes (hs : r.slots[i]? = some s) : r.attributes[i]? = some s.name := by
  simp [attributes, hs]

theorem getElem?_constants (hs : r.slots[i]? = some s) :
    r.constants[i]? = some (s.constant, s.name) := by
  simp [constants, hs]

variable (key : Nat) (name : String) (value : String → Value)

theorem valueAt_toRecord (hs : r.slots[i]? = some s) :
    (r.toRecord key name value).valueAt i = value s.field := by
  simp [toRecord, Record.valueAt, hs]

theorem valueAt_toRecord_of_length_le (hi : r.slots.length ≤ i) :
    (r.toRecord key name value).valueAt i = .null := by
  simp [toRecord, Record.valueAt, hi]

theorem get?_toRecord (hapart : Slot.Apart r.slots) (hs : s ∈ r.slots) :
    (r.toRecord key name value).get? s.name = some (value s.field) := by
  obtain ⟨i, hi, rfl⟩ := List.getElem_of_mem hs
  have hfirst : FirstAt r.attributes r.slots[i].name i := by
    refine ⟨by simp [attributes, hi], fun j hj heq => ?_⟩
    have hj' : j < r.slots.length := by omega
    have hname : r.slots[j].name = r.slots[i].name := by simpa [attributes, hj'] using heq
    exact (List.pairwise_iff_getElem.mp hapart j i hj' hi hj).1 hname
  have hslot : (r.recordType key name).slotOf? r.slots[i].name = some i :=
    RecordType.slotOf?_eq_some_iff.mpr hfirst
  show ((r.recordType key name).slotOf? r.slots[i].name).map _ = _
  rw [hslot, Option.map_some, valueAt_toRecord key name value (List.getElem?_eq_getElem hi)]

end Derived

end RecordQuery
