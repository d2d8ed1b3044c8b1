import RecordQuery.Proofs.Schema.Names
import RecordQuery.Proofs.Schema.Slots

/-!
# What a derived type shows

A derived type has an attribute, a slot and a constant for every field that is not skipped, in the
order of the fields, and nothing for the others. Whether a field is skipped, and what its attribute
is called, is read from the first annotation about records alone: a mark to skip in a later one is
not heeded.
-/

namespace RecordQuery

/-! ## Attributes as paths -/

theorem Field.attributeName_isSegment {f : Field} {name : String} (hrenamed : f.WellRenamed)
    (hname : Identifier.Spells f.name name) : AttributeName.IsSegment f.attributeName := by
  unfold attributeName
  cases hrename : f.rename? with
  | some new => exact .of_isRename (hrenamed new hrename)
  | none =>
    rw [Option.getD_none, AttributeName.ofField_of_spells hname]
    exact .of_isWord hname.isWord

theorem PropertyPath.resolve_of_segments {p : PropertyPath} {name : String}
    (hp : p.segments = [name]) {r : Record} {v : Value} (hv : r.get? name = some v) :
    p.resolve r = .ok (if v.isNull then none else some v) := by
  rw [resolve, hp, follow, step, hv]
  simp only [bind, Except.bind]
  cases v.isNull <;> rfl

/-! ## Fields with a slot -/

namespace Derived

variable {fields : List Field} {r : Derived}

theorem getElem?_slots (h : r.slots = (Field.kept fields).map Field.slot) {i : Nat}
    (hi : i < (Field.kept fields).length) : r.slots[i]? = some (Field.kept fields)[i].slot := by
  simp [h, hi]

theorem mem_fields_iff (h : r.slots = (Field.kept fields).map Field.slot)
    (hnames : (fields.map Field.name).Nodup) {f : Field} (hf : f ∈ fields) :
    f.name ∈ r.slots.map Slot.field ↔ f.isSkipped = false := by
  rw [h, List.map_map]
  constructor
  · intro hmem
    obtain ⟨g, hg, hname⟩ := List.mem_map.mp hmem
    obtain ⟨hg, hkept⟩ := Field.mem_kept_iff.mp hg
    exact List.inj_on_of_nodup_map hnames hg hf hname ▸ hkept
  · exact fun hkept => List.mem_map.mpr ⟨f, Field.mem_kept_iff.mpr ⟨hf, hkept⟩, rfl⟩

end Derived

namespace Declaration

/-- A derived type has one attribute, one slot and one constant for each field kept, in their order,
as long as no field has more than one annotation about records. -/
theorem derive_follows_kept_fields {d : Declaration} {fields : List Field} {r : Derived}
    (hshape : d.shape = .named fields)
    (hfields : ∀ f ∈ fields, ∃ name, Identifier.Spells f.name name) (h : d.derive = .ok r) :
    let kept := Field.kept fields
    (r.attributes.length = kept.length ∧ r.slots.length = kept.length ∧
      r.constants.length = kept.length) ∧
    (∀ i (hi : i < kept.length),
      r.attributes[i]? = some kept[i].attributeName ∧
      r.constants[i]? =
        some (AttributeName.constant kept[i].attributeName, kept[i].attributeName) ∧
      ∀ key name value, (r.toRecord key name value).valueAt i = value kept[i].name) ∧
    (∀ f ∈ kept, ∀ name, Identifier.Spells f.name name →
      f.attributeName = f.rename?.getD name) ∧
    r.attributes.Nodup ∧ (r.constants.map Prod.fst).Nodup ∧
    (∀ key name value i, kept.length ≤ i → (r.toRecord key name value).valueAt i = .null) ∧
    (∀ f ∈ kept, ∃ p, PropertyPath.parse f.attributeName = .ok p ∧
      p.segments = [f.attributeName] ∧
      ∀ key name value, p.resolve (r.toRecord key name value) =
        .ok (if (value f.name).isNull then none else some (value f.name))) ∧
    ({ d with shape := .named kept } : Declaration).derive = .ok r ∧
    ((fields.map Field.name).Nodup →
      ∀ f ∈ fields, f.isSkipped = true → f.name ∉ r.slots.map Slot.field) ∧
    ∀ f ∈ fields, f.recordSettings.length ≤ 1 → f.settings = f.recordSettings.flatten := by
  intro kept
  obtain ⟨hslots, hapart, hrenamed⟩ := derive_ok hshape h
  have hlength : r.slots.length = kept.length := by rw [hslots, List.length_map]
  refine ⟨⟨?_, hlength, ?_⟩, fun i hi => ?_, fun f hf name hname => ?_,
    Derived.attributes_nodup hapart, Derived.constants_nodup hapart,
    fun key name value i hi => ?_, fun f hf => ?_, ?_, fun hnames f hf hskipped hmem => ?_,
    fun f _ => Field.settings_of_length_le_one⟩
  · rw [Derived.attributes, List.length_map, hlength]
  · rw [Derived.constants, List.length_map, hlength]
  · have hslot := Derived.getElem?_slots hslots hi
    exact ⟨Derived.getElem?_attributes hslot, Derived.getElem?_constants hslot,
      fun key name value => Derived.valueAt_toRecord key name value hslot⟩
  · rw [Field.attributeName, AttributeName.ofField_of_spells hname]
  · exact Derived.valueAt_toRecord_of_length_le key name value (hlength ▸ hi)
  · obtain ⟨hf', -⟩ := Field.mem_kept_iff.mp hf
    obtain ⟨own, hown⟩ := hfields f hf'
    obtain ⟨p, hp, hsegments⟩ := (Field.attributeName_isSegment (hrenamed f hf') hown).exists_parse
    refine ⟨p, hp, hsegments, fun key name value => ?_⟩
    have hmem : f.slot ∈ r.slots := hslots ▸ List.mem_map_of_mem hf
    exact PropertyPath.resolve_of_segments hsegments
      (Derived.get?_toRecord key name value hapart hmem)
  · obtain ⟨hlifetimes, hrun, himplementations⟩ := (derive_eq_ok_iff hshape).mp h
    exact (derive_eq_ok_iff rfl).mpr ⟨hlifetimes, Slot.ofFields_kept hrun, himplementations⟩
  · rw [(Derived.mem_fields_iff hslots hnames hf).mp hmem] at hskipped
    cases hskipped

/-- A raw identifier, a skipped field, and a renamed one with an annotation of another kind. -/
theorem derive_follows_kept_fields_raw :
    let fields : List Field := [⟨"r#type", []⟩, ⟨"secret", [.record [.word "skip"]]⟩,
      ⟨"age", [.foreign "serde", .record [.text "rename" "years"]]⟩]
    let d : Declaration := { name := "Person", shape := .named fields }
    (∀ f ∈ fields, ∃ name, Identifier.Spells f.name name) ∧
    ∃ r, d.derive = .ok r ∧ r.attributes.length = 2 ∧ r.attributes[0]? = some "type" ∧
      r.constants[1]? = some ("YEARS", "years") ∧ "secret" ∉ r.slots.map Slot.field ∧
      ∃ p, PropertyPath.parse "years" = .ok p ∧ ∀ key name value,
        p.resolve (r.toRecord key name value) =
          .ok (if (value "age").isNull then none else some (value "age")) := by
  intro fields d
  have htype : Identifier.IsWord "type" :=
    ⟨'t', "ype".toList, by decide, .inr (by decide +kernel),
      List.all_eq_true.mp (by decide +kernel)⟩
  have hfields : ∀ f ∈ fields, ∃ name, Identifier.Spells f.name name := by
    simp only [fields, List.forall_mem_cons, List.not_mem_nil, false_implies, implies_true,
      and_true]
    exact ⟨⟨"type", .raw htype (by decide)⟩, ⟨"secret", .plain (by decide +kernel)⟩,
      ⟨"age", .plain (by decide +kernel)⟩⟩
  have hage : Field.attributeName? ⟨"age", [.foreign "serde", .record [.text "rename" "years"]]⟩ =
      .ok (some "years") := by
    have hadd := @FieldOptions.add_rename {} "years" (by decide)
    unfold Field.attributeName?
    rw [FieldOptions.ofAnnotations_eq]
    show FieldOptions.ofSettings [.text "rename" "years"] >>= _ = _
    unfold FieldOptions.ofSettings
    rw [List.foldlM_cons, hadd]
    rfl
  have hslots : Slot.ofFields [] fields =
      .ok [⟨"r#type", "type", "TYPE"⟩, ⟨"age", "years", "YEARS"⟩] := by
    simp only [fields, Slot.ofFields, hage]
    decide +kernel
  have hderive := (derive_eq_ok_iff (d := d) (r := ⟨d.implementations, _⟩) rfl).mpr
    ⟨rfl, hslots, rfl⟩
  have hfirst : Field.attributeName ⟨"r#type", []⟩ = "type" := by decide +kernel
  obtain ⟨⟨hlength, -, -⟩, hslot, -, -, -, -, hpath, -, hskipped, -⟩ :=
    derive_follows_kept_fields rfl hfields hderive
  refine ⟨hfields, _, hderive, hlength, hfirst ▸ (hslot 0 (by decide)).1, rfl,
    hskipped (by decide) ⟨"secret", [.record [.word "skip"]]⟩ (by simp [fields]) rfl, ?_⟩
  obtain ⟨p, hp, -, hresolve⟩ :=
    hpath ⟨"age", [.foreign "serde", .record [.text "rename" "years"]]⟩ (by decide)
  exact ⟨p, hp, hresolve⟩

/-- What a second annotation about records says is not heeded: a field that it skips is shown, and
one that it renames keeps its name. -/
theorem derive_heeds_first_annotation_only :
    let d : Declaration := { name := "Person", shape := .named [
      ⟨"secret", [.record [], .record [.word "skip"]]⟩,
      ⟨"age", [.record [], .record [.text "rename" "years"]]⟩] }
    d.derive =
      .ok ⟨d.implementations, [⟨"secret", "secret", "SECRET"⟩, ⟨"age", "age", "AGE"⟩]⟩ := by
  decide +kernel

/-! ## Fields marked to be skipped -/

/-- A field that is marked to be skipped is kept out exactly if its first annotation about records
has the mark. -/
theorem marked_field_hidden_iff {d : Declaration} {fields : List Field} {f : Field}
    (hshape : d.shape = .named fields) (hnames : (fields.map Field.name).Nodup) (hf : f ∈ fields)
    (hmarked : ∃ settings ∈ f.recordSettings, Setting.word "skip" ∈ settings) :
    ((∀ r, d.derive = .ok r → f.name ∉ r.slots.map Slot.field) ↔
      (∀ r, d.derive ≠ .ok r) ∨ Setting.word "skip" ∈ f.settings) ∧
    (f.recordSettings.length ≤ 1 → ∀ r, d.derive = .ok r → f.name ∉ r.slots.map Slot.field) ∧
    ∀ r, d.derive = .ok r → Setting.word "skip" ∉ f.settings → ∃ i : Nat,
      r.attributes[i]? = some f.attributeName ∧
      r.constants[i]? = some (AttributeName.constant f.attributeName, f.attributeName) ∧
      ∀ key name value, (r.toRecord key name value).valueAt i = value f.name := by
  have hskipped : f.isSkipped = true ↔ Setting.word "skip" ∈ f.settings := by
    simp [Field.isSkipped]
  have hhidden (r : Derived) (h : d.derive = .ok r) :
      f.name ∉ r.slots.map Slot.field ↔ Setting.word "skip" ∈ f.settings := by
    rw [Derived.mem_fields_iff (derive_ok hshape h).1 hnames hf, Bool.not_eq_false, hskipped]
  refine ⟨⟨fun hall => ?_, ?_⟩, fun hone r h => ?_, fun r h hkept => ?_⟩
  · by_cases hfails : ∀ r, d.derive ≠ .ok r
    · exact .inl hfails
    · push Not at hfails
      obtain ⟨r, h⟩ := hfails
      exact .inr ((hhidden r h).mp (hall r h))
  · rintro (hfails | hfirst) r h
    · exact absurd h (hfails r)
    · exact (hhidden r h).mpr hfirst
  · rw [hhidden r h, Field.settings_of_length_le_one hone]
    exact List.mem_flatten.mpr hmarked
  · obtain ⟨hslots, -, -⟩ := derive_ok hshape h
    have hmem : f ∈ Field.kept fields :=
      Field.mem_kept_iff.mpr ⟨hf, by rw [← Bool.not_eq_true, hskipped]; exact hkept⟩
    obtain ⟨i, hi, hfield⟩ := List.getElem_of_mem hmem
    have hslot := Derived.getElem?_slots hslots hi
    rw [hfield] at hslot
    exact ⟨i, Derived.getElem?_attributes hslot, Derived.getElem?_constants hslot,
      fun key name value => Derived.valueAt_toRecord key name value hslot⟩

/-- A mark behind an annotation of another kind, but in the first one about records. -/
theorem marked_field_hidden_iff_foreign :
    let f : Field := ⟨"secret", [.foreign "serde", .record [.word "skip"]]⟩
    let d : Declaration := { name := "Person", shape := .named [⟨"age", []⟩, f] }
    (∃ settings ∈ f.recordSettings, Setting.word "skip" ∈ settings) ∧
      (∃ r, d.derive = .ok r) ∧ ∀ r, d.derive = .ok r → f.name ∉ r.slots.map Slot.field := by
  intro f d
  have hmarked : ∃ settings ∈ f.recordSettings, Setting.word "skip" ∈ settings := by decide
  have hderive : d.derive = .ok ⟨d.implementations, [⟨"age", "age", "AGE"⟩]⟩ := by decide +kernel
  exact ⟨hmarked, ⟨_, hderive⟩,
    (marked_field_hidden_iff (d := d) rfl (by decide) (by simp) hmarked).2.1 (by decide)⟩

/-- A field that its second annotation about records marks to be skipped is shown. -/
theorem marked_field_shown :
    let f : Field := ⟨"secret", [.record [], .record [.word "skip"]]⟩
    let d : Declaration := { name := "Person", shape := .named [f] }
    (∃ settings ∈ f.recordSettings, Setting.word "skip" ∈ settings) ∧
      ∃ r, d.derive = .ok r ∧ f.name ∈ r.slots.map Slot.field := by
  intro f d
  exact ⟨by decide, ⟨d.implementations, [⟨"secret", "secret", "SECRET"⟩]⟩, by decide +kernel,
    List.mem_singleton.mpr rfl⟩

end Declaration

end RecordQuery
