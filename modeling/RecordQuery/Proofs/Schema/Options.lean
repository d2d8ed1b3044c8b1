import RecordQuery.Proofs.Outcome
import RecordQuery.Proofs.Schema.Names
import RecordQuery.Schema.Derive

/-!
# What annotations ask of a field

Of the annotations about records on one field the first decides. The field is skipped if one of its
settings says so, and else the last rename among them is the name of the attribute.
-/

namespace RecordQuery

def Setting.rename? : Setting → Option String
  | .text "rename" name => some name
  | _ => none

/-- The settings of an annotation about records. -/
def Annotation.settings? : Annotation → Option (List Setting)
  | .record settings => some settings
  | .foreign _ => none

namespace FieldOptions

/-! ## Settings -/

theorem add_rename (o : FieldOptions) {name : String} (h : AttributeName.isRename name = true) :
    o.add (.text "rename" name) = .ok { o with rename := some name } := by
  have hplain : ¬(name == "" || name.contains '.') = true := by
    have hdot := (AttributeName.IsSegment.of_isRename h).noDot
    have hempty : name ≠ "" := by
      rintro rfl
      cases h
    simp [String.contains_char_eq, hdot, hempty]
  rw [add, if_neg hplain, if_neg (by simp [h])]

theorem add_eq_ok_iff {o o' : FieldOptions} {s : Setting} :
    o.add s = .ok o' ↔
      (s = .word "skip" ∧ o' = { o with skip := true }) ∨
        ∃ name, s = .text "rename" name ∧ AttributeName.isRename name = true ∧
          o' = { o with rename := some name } := by
  constructor
  · intro h
    unfold add at h
    split at h
    · exact .inl ⟨rfl, (Except.ok.inj h).symm⟩
    · rename_i name
      split at h
      · cases h
      split at h
      · cases h
      · rename_i _ hname
        exact .inr ⟨name, rfl, by simpa using hname, (Except.ok.inj h).symm⟩
    · cases h
    · cases h
  · rintro (⟨rfl, rfl⟩ | ⟨name, rfl, hname, rfl⟩)
    · rfl
    · exact add_rename o hname

/-- Settings that are all in order set the mark to skip if one of them is that mark, and keep the
last of the names they give. -/
theorem foldlM_add_ok {settings : List Setting} {o o' : FieldOptions}
    (h : settings.foldlM add o = .ok o') :
    o'.skip = (o.skip || settings.contains (.word "skip")) ∧
      o'.rename = (settings.filterMap Setting.rename?).getLast?.or o.rename ∧
      ∀ name ∈ settings.filterMap Setting.rename?, AttributeName.isRename name = true := by
  induction settings generalizing o with
  | nil =>
    cases h
    simp
  | cons s settings ih =>
    rw [List.foldlM_cons] at h
    obtain ⟨added, hadd, hrest⟩ := exists_of_bind_ok h
    obtain ⟨hskip, hrename, hnames⟩ := ih hrest
    rcases add_eq_ok_iff.mp hadd with ⟨rfl, rfl⟩ | ⟨name, rfl, hname, rfl⟩
    · refine ⟨by simp [hskip], ?_, ?_⟩
      · simpa [Setting.rename?] using hrename
      · simpa [Setting.rename?] using hnames
    · refine ⟨by simp [hskip], ?_, List.forall_mem_cons.mpr ⟨hname, hnames⟩⟩
      rw [hrename]
      cases hlast : (settings.filterMap Setting.rename?).getLast? <;>
        simp [Setting.rename?, List.getLast?_cons, hlast]

theorem ofSettings_ok {settings : List Setting} {o : FieldOptions}
    (h : ofSettings settings = .ok o) :
    o.skip = settings.contains (.word "skip") ∧
      o.rename = (settings.filterMap Setting.rename?).getLast? ∧
      ∀ name ∈ settings.filterMap Setting.rename?, AttributeName.isRename name = true := by
  obtain ⟨found, hfold, hreturn⟩ := exists_of_bind_ok h
  obtain ⟨hskip, hrename, hnames⟩ := foldlM_add_ok hfold
  split at hreturn
  · cases hreturn
  · cases hreturn
    exact ⟨by simpa using hskip, by simpa using hrename, hnames⟩

theorem ofAnnotations_eq (annotations : List Annotation) :
    ofAnnotations annotations =
      ofSettings ((annotations.filterMap Annotation.settings?).headD []) := by
  induction annotations with
  | nil => rfl
  | cons a annotations ih =>
    cases a with
    | record settings => rfl
    | foreign name => exact ih

end FieldOptions

namespace Field

/-! ## Fields -/

/-- The settings of each annotation about records. -/
def recordSettings (f : Field) : List (List Setting) := f.annotations.filterMap Annotation.settings?

/-- The settings that decide. -/
def settings (f : Field) : List Setting := f.recordSettings.headD []

theorem settings_of_length_le_one {f : Field} (h : f.recordSettings.length ≤ 1) :
    f.settings = f.recordSettings.flatten := by
  unfold settings
  cases hsettings : f.recordSettings with
  | nil => rfl
  | cons first rest =>
    obtain rfl : rest = [] := by simpa [hsettings] using h
    simp

def isSkipped (f : Field) : Bool := f.settings.contains (.word "skip")

def rename? (f : Field) : Option String := (f.settings.filterMap Setting.rename?).getLast?

/-- The name of the field's attribute, if it has one. -/
def attributeName (f : Field) : String := f.rename?.getD (AttributeName.ofField f.name)

theorem attributeName?_ok {f : Field} {found : Option String} (h : f.attributeName? = .ok found) :
    found = (if f.isSkipped then none else some f.attributeName) ∧
      ∀ name, f.rename? = some name → AttributeName.isRename name = true := by
  obtain ⟨o, hoptions, hreturn⟩ := exists_of_bind_ok h
  rw [FieldOptions.ofAnnotations_eq] at hoptions
  obtain ⟨hskip, hrename, hnames⟩ := FieldOptions.ofSettings_ok hoptions
  have hskipped : o.skip = f.isSkipped := hskip
  have hrenamed : o.rename = f.rename? := hrename
  refine ⟨?_, fun name hname => hnames name (List.mem_of_getLast? hname)⟩
  rw [hskipped, hrenamed] at hreturn
  cases hf : f.isSkipped with
  | true =>
    rw [hf] at hreturn
    exact (Except.ok.inj hreturn).symm
  | false =>
    rw [hf] at hreturn
    exact (Except.ok.inj hreturn).symm

end Field

end RecordQuery
