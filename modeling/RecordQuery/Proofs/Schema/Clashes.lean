import RecordQuery.Proofs.Schema.Slots

/-!
# Clashes between the fields of a declaration

Attributes of different names can meet in one constant, so whether a type can be derived is decided
by all its kept fields together: their constants must differ and be identifiers. The derivation
meets the fields one by one and stops at the first that clashes with those before it, of which it
reports the first thing that is wrong: the name, the constant that another name gives too, or the
constant by itself.
-/

namespace RecordQuery

namespace Field

/-- The constant of the field's attribute. -/
def constant (f : Field) : String := AttributeName.constant f.attributeName

/-- Whether the annotation that decides, if there is one, is in order. -/
def WellAnnotated (f : Field) : Prop := ∃ o, FieldOptions.ofAnnotations f.annotations = .ok o

/-- The fields have constants of their own that are all identifiers. -/
structure Sound (fields : List Field) : Prop where
  nodup : (fields.map constant).Nodup
  valid : ∀ f ∈ fields, Identifier.isValid f.constant = true

/-- What is wrong with a field behind others. -/
inductive Clash (before : List Field) (f : Field) : SchemaError → Prop
  | name (h : f.attributeName ∈ before.map attributeName) :
    Clash before f (.duplicateName f.attributeName)
  | constant (hname : f.attributeName ∉ before.map attributeName)
    (h : f.constant ∈ before.map constant) :
    Clash before f (.sharedConstant f.attributeName f.constant)
  | identifier (hname : f.attributeName ∉ before.map attributeName)
    (hconstant : f.constant ∉ before.map constant) (h : Identifier.isValid f.constant = false) :
    Clash before f (.invalidConstant f.attributeName)

/-- What is wrong with the first of the fields that clashes with those before it. -/
def FirstClash (before fields : List Field) (e : SchemaError) : Prop :=
  ∃ passed f after, fields = passed ++ f :: after ∧ Sound (before ++ passed) ∧
    Clash (before ++ passed) f e

/-! ## Sound fields -/

theorem Sound.of_append {before after : List Field} (h : Sound (before ++ after)) :
    Sound before := by
  have hnodup := h.nodup
  rw [List.map_append] at hnodup
  exact ⟨(List.nodup_append.mp hnodup).1, fun f hf => h.valid f (List.mem_append_left _ hf)⟩

theorem forall_not_clash_iff {before : List Field} {f : Field} : (∀ e, ¬Clash before f e) ↔
    f.constant ∉ before.map constant ∧ Identifier.isValid f.constant = true := by
  have hname (h : f.attributeName ∈ before.map attributeName) :
      f.constant ∈ before.map constant := by
    obtain ⟨g, hg, hsame⟩ := List.mem_map.mp h
    exact List.mem_map.mpr ⟨g, hg, congrArg AttributeName.constant hsame⟩
  constructor
  · intro h
    have hfree : f.attributeName ∉ before.map attributeName := fun hmem => h _ (.name hmem)
    have hnew : f.constant ∉ before.map constant := fun hmem => h _ (.constant hfree hmem)
    refine ⟨hnew, ?_⟩
    rw [← Bool.not_eq_false]
    exact fun hinvalid => h _ (.identifier hfree hnew hinvalid)
  · rintro ⟨hnew, hvalid⟩ e (hmem | ⟨-, hmem⟩ | ⟨-, -, hinvalid⟩)
    · exact hnew (hname hmem)
    · exact hnew hmem
    · cases hvalid.symm.trans hinvalid

theorem sound_concat_iff {before : List Field} {f : Field} :
    Sound (before ++ [f]) ↔ Sound before ∧ ∀ e, ¬Clash before f e := by
  have hnodup : ((before ++ [f]).map constant).Nodup ↔
      f.constant ∉ before.map constant ∧ (before.map constant).Nodup := by
    rw [List.map_append, List.nodup_append_comm]
    exact List.nodup_cons
  rw [forall_not_clash_iff]
  constructor
  · intro h
    exact ⟨h.of_append, (hnodup.mp h.nodup).1, h.valid f (by simp)⟩
  · rintro ⟨h, hnew, hvalid⟩
    exact ⟨hnodup.mpr ⟨hnew, h.nodup⟩,
      List.forall_mem_append.mpr ⟨h.valid, List.forall_mem_singleton.mpr hvalid⟩⟩

theorem firstClash_cons_iff {before rest : List Field} {f : Field} {e : SchemaError}
    (hbefore : Sound before) :
    FirstClash before (f :: rest) e ↔ Clash before f e ∨ FirstClash (before ++ [f]) rest e := by
  constructor
  · rintro ⟨passed, g, after, hfields, hsound, hclash⟩
    cases passed with
    | nil =>
      obtain ⟨rfl, -⟩ := List.cons.inj hfields
      exact .inl (by simpa using hclash)
    | cons g' passed =>
      obtain ⟨rfl, hrest⟩ := List.cons.inj hfields
      exact .inr ⟨passed, g, after, hrest, by simpa using hsound, by simpa using hclash⟩
  · rintro (hclash | ⟨passed, g, after, rfl, hsound, hclash⟩)
    · exact ⟨[], f, rest, rfl, by simpa using hbefore, by simpa using hclash⟩
    · exact ⟨f :: passed, g, after, rfl, by simpa using hsound, by simpa using hclash⟩

theorem FirstClash.sound {before fields : List Field} {e : SchemaError}
    (h : FirstClash before fields e) : Sound before := by
  obtain ⟨_, _, _, _, hsound, _⟩ := h
  exact hsound.of_append

/-! ## Fields whose annotations are in order -/

theorem attributeName?_of_wellAnnotated {f : Field} (h : f.WellAnnotated) :
    f.attributeName? = .ok (if f.isSkipped then none else some f.attributeName) := by
  obtain ⟨o, ho⟩ := h
  have hfound : ∃ found, f.attributeName? = .ok found := by
    unfold attributeName?
    rw [ho]
    cases hskip : o.skip <;> simp [bind, Except.bind, hskip, pure, Except.pure]
  obtain ⟨found, hfound⟩ := hfound
  rw [hfound, (attributeName?_ok hfound).1]

theorem wellAnnotated_of_rename {name new : String} (h : AttributeName.isRename new = true) :
    WellAnnotated ⟨name, [.record [.text "rename" new]]⟩ := by
  refine ⟨{ rename := some new }, ?_⟩
  show FieldOptions.ofSettings [.text "rename" new] = _
  unfold FieldOptions.ofSettings
  rw [List.foldlM_cons, FieldOptions.add_rename {} h]
  rfl

end Field

/-! ## The derivation -/

namespace Slot

variable {before fields : List Field} {f : Field} {e : SchemaError}

theorem make_slots : make (before.map Field.slot) f.name f.attributeName =
    if f.attributeName ∈ before.map Field.attributeName then .error (.duplicateName f.attributeName)
    else if f.constant ∈ before.map Field.constant then
      .error (.sharedConstant f.attributeName f.constant)
    else if Identifier.isValid f.constant = false then .error (.invalidConstant f.attributeName)
    else .ok f.slot := by
  have hname : ((before.map Field.slot).any (·.name == f.attributeName)) = true ↔
      f.attributeName ∈ before.map Field.attributeName := by
    simp only [Field.slot, List.any_map, List.any_eq_true, List.mem_map, Function.comp_apply,
      beq_iff_eq]
  have hconstant : ((before.map Field.slot).any
      (·.constant == AttributeName.constant f.attributeName)) = true ↔
      f.constant ∈ before.map Field.constant := by
    simp only [Field.slot, Field.constant, List.any_map, List.any_eq_true, List.mem_map,
      Function.comp_apply, beq_iff_eq]
  simp only [make, hname, hconstant, Bool.not_eq_true']
  rfl

/-- Behind the slots of other fields, exactly what is wrong with a field is reported. -/
theorem make_eq_error_iff :
    make (before.map Field.slot) f.name f.attributeName = .error e ↔ f.Clash before e := by
  rw [make_slots]
  constructor
  · intro h
    split at h
    · cases h
      exact .name ‹_›
    split at h
    · cases h
      exact .constant ‹_› ‹_›
    split at h
    · cases h
      exact .identifier ‹_› ‹_› ‹_›
    · cases h
  · rintro (hmem | ⟨hname, hmem⟩ | ⟨hname, hconstant, hinvalid⟩)
    · rw [if_pos hmem]
    · rw [if_neg hname, if_pos hmem]
    · rw [if_neg hname, if_neg hconstant, if_pos hinvalid]

theorem ofFields_cons_of_wellAnnotated {slots : List Slot} {rest : List Field}
    (h : f.WellAnnotated) :
    ofFields slots (f :: rest) =
      if f.isSkipped then ofFields slots rest
      else make slots f.name f.attributeName >>= fun s => ofFields (slots ++ [s]) rest := by
  rw [ofFields, Field.attributeName?_of_wellAnnotated h]
  cases f.isSkipped <;> rfl

/-- Where all annotations are in order, the derivation goes through exactly if the kept fields are
sound behind those before, and else reports what is wrong with the first that is not. -/
theorem ofFields_verdict (hbefore : Field.Sound before)
    (hfields : ∀ f ∈ fields, f.WellAnnotated) :
    ((∃ slots, ofFields (before.map Field.slot) fields = .ok slots) ↔
        Field.Sound (before ++ Field.kept fields)) ∧
      ∀ e, ofFields (before.map Field.slot) fields = .error e ↔
        Field.FirstClash before (Field.kept fields) e := by
  induction fields generalizing before with
  | nil =>
    refine ⟨?_, fun e => ?_⟩
    · simpa [ofFields, Field.kept] using hbefore
    · simp [ofFields, Field.kept, Field.FirstClash]
  | cons f rest ih =>
    obtain ⟨hf, hrest⟩ := List.forall_mem_cons.mp hfields
    rw [ofFields_cons_of_wellAnnotated hf]
    cases hskipped : f.isSkipped with
    | true =>
      rw [if_pos rfl, Field.kept_cons_of_skipped hskipped]
      exact ih hbefore hrest
    | false =>
      rw [if_neg Bool.false_ne_true, Field.kept_cons_of_not_skipped hskipped,
        ← List.singleton_append, ← List.append_assoc]
      simp only [List.singleton_append, Field.firstClash_cons_iff hbefore]
      cases hmake : make (before.map Field.slot) f.name f.attributeName with
      | error e =>
        have hclash := make_eq_error_iff.mp hmake
        have hbad : ¬Field.Sound (before ++ [f]) := fun h =>
          (Field.sound_concat_iff.mp h).2 e hclash
        refine ⟨iff_of_false (by rintro ⟨slots, ⟨⟩⟩) fun h => hbad h.of_append, fun e' => ?_⟩
        have hfirst : f.Clash before e' ↔ e = e' := by
          rw [← make_eq_error_iff, hmake, Except.error.injEq]
        show (Except.error e : Except SchemaError (List Slot)) = .error e' ↔ _
        rw [Except.error.injEq, hfirst]
        exact (or_iff_left fun h => hbad h.sound).symm
      | ok s =>
        have hnone (e : SchemaError) : ¬f.Clash before e := by
          rw [← make_eq_error_iff, hmake]
          simp
        have hsound : Field.Sound (before ++ [f]) := Field.sound_concat_iff.mpr ⟨hbefore, hnone⟩
        obtain rfl : s = f.slot := (make_eq_ok_iff.mp hmake).1
        obtain ⟨hok, herror⟩ := ih hsound hrest
        rw [List.map_append] at hok herror
        exact ⟨hok, fun e => (herror e).trans (or_iff_right (hnone e)).symm⟩

end Slot

namespace Declaration

/-- A structure can be derived exactly if the constants of its kept fields differ and are
identifiers; otherwise the error is that of the first kept field that clashes. -/
theorem derive_decided_by_constants {d : Declaration} {fields : List Field}
    (hshape : d.shape = .named fields) (hlifetimes : d.lifetimes = [])
    (hfields : ∀ f ∈ fields, f.WellAnnotated) :
    let kept := Field.kept fields
    ((∃ r, d.derive = .ok r) ↔ (kept.map Field.constant).Nodup ∧
      ∀ f ∈ kept, Identifier.isValid f.constant = true) ∧
    ∀ e, d.derive = .error e ↔ ∃ before f after, kept = before ++ f :: after ∧
      Field.Sound before ∧ f.Clash before e := by
  intro kept
  have hslots : d.slots = Slot.ofFields [] fields := by
    rw [slots_named hshape, hlifetimes]
    rfl
  have hnone : Field.Sound [] := ⟨.nil, by simp⟩
  obtain ⟨hok, herror⟩ := Slot.ofFields_verdict hnone hfields
  refine ⟨?_, fun e => ?_⟩
  · have hderive : (∃ r, d.derive = .ok r) ↔ ∃ slots, Slot.ofFields [] fields = .ok slots := by
      rw [derive, hslots]
      cases Slot.ofFields [] fields <;> simp [Except.map]
    exact hderive.trans (hok.trans ⟨fun h => ⟨h.nodup, h.valid⟩, fun h => ⟨h.1, h.2⟩⟩)
  · rw [derive, map_eq_error_iff, hslots]
    exact herror e

/-- A rename and a field's own name that give the same constant, with a skipped field between. -/
theorem derive_decided_by_constants_shared :
    let fields : List Field := [⟨"created", [.record [.text "rename" "createdAt"]]⟩,
      ⟨"secret", [.record [.word "skip"]]⟩, ⟨"created_at", []⟩, ⟨"id", []⟩]
    let d : Declaration := { name := "Stamped", shape := .named fields }
    (∀ f ∈ fields, f.WellAnnotated) ∧ (¬∃ r, d.derive = .ok r) ∧
      d.derive = .error (.sharedConstant "created_at" "CREATED_AT") := by
  intro fields d
  have hfields : ∀ f ∈ fields, f.WellAnnotated := by
    simp only [fields, List.forall_mem_cons, List.not_mem_nil, false_implies, implies_true,
      and_true]
    exact ⟨Field.wellAnnotated_of_rename (by decide), ⟨{ skip := true }, rfl⟩, ⟨{}, rfl⟩,
      ⟨{}, rfl⟩⟩
  obtain ⟨hok, herror⟩ := derive_decided_by_constants (d := d) rfl rfl hfields
  refine ⟨hfields, fun h => ?_, (herror _).mpr ?_⟩
  · exact absurd (hok.mp h).1 (by decide +kernel)
  · refine ⟨[⟨"created", [.record [.text "rename" "createdAt"]]⟩], ⟨"created_at", []⟩,
      [⟨"id", []⟩], by decide +kernel, ⟨by decide +kernel, by decide +kernel⟩, ?_⟩
    exact .constant (by decide +kernel) (by decide +kernel)

end Declaration

end RecordQuery
