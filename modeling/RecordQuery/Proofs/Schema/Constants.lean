import RecordQuery.Proofs.Schema.Clashes

/-!
# Constants of renames

A rename is made of letters, digits, underscores and hyphens of ASCII, and its constant of the same
letters in capitals, the same digits and underscores. It does not start with a digit, it is neither
an underscore alone nor a reserved word, as those have small letters, and so it is an identifier: no
declaration is refused for the constant of a rename.
-/

namespace RecordQuery

/-! ## Characters of ASCII -/

namespace Unicode

theorem forall_ascii {p : Char → Prop} (h : ∀ n : Fin 128, p (Char.ofNat n)) {c : Char}
    (hc : c.toNat < 128) : p c := by
  have hcode := h ⟨c.toNat, hc⟩
  rwa [Char.ofNat_toNat] at hcode

theorem isUpper_iff {c : Char} : c.isUpper = true ↔ 65 ≤ c.toNat ∧ c.toNat ≤ 90 := by
  simp [Char.isUpper, UInt32.le_iff_toNat_le]

theorem isAlpha_iff {c : Char} : c.isAlpha = true ↔
    (65 ≤ c.toNat ∧ c.toNat ≤ 90) ∨ 97 ≤ c.toNat ∧ c.toNat ≤ 122 := by
  simp [Char.isAlpha, Char.isUpper, Char.isLower, UInt32.le_iff_toNat_le]

theorem isDigit_iff {c : Char} : c.isDigit = true ↔ 48 ≤ c.toNat ∧ c.toNat ≤ 57 := by
  simp [Char.isDigit, UInt32.le_iff_toNat_le]

theorem toNat_lt_of_isAlphanum {c : Char} (h : c.isAlphanum = true) : c.toNat < 128 := by
  simp only [Char.isAlphanum, Bool.or_eq_true, isAlpha_iff, isDigit_iff] at h
  omega

set_option maxRecDepth 2000 in
theorem isUppercase_eq_isUpper {c : Char} (h : c.toNat < 128) : isUppercase c = c.isUpper := by
  have hbeyond : (uppercase.tail.all fun s => decide (128 ≤ s.first)) = true := rfl
  have hothers : uppercase.tail.any (fun s => s.contains c.toNat) = false := by
    refine List.any_eq_false.mpr fun s hs => ?_
    have hfirst := of_decide_eq_true (List.all_eq_true.mp hbeyond s hs)
    simp only [Steps.contains, Bool.and_eq_true, decide_eq_true_eq]
    omega
  have hlatin : isUppercase c =
      ((⟨0x41, 0x5A, 1⟩ : Steps).contains c.toNat ||
        uppercase.tail.any fun s => s.contains c.toNat) := rfl
  rw [hlatin, hothers, Bool.or_false, Bool.eq_iff_iff, isUpper_iff]
  simp [Steps.contains, Nat.mod_one]

end Unicode

namespace AttributeName

/-- A character that a rename may have. -/
def IsPlain (c : Char) : Prop := c.isAlphanum = true ∨ c = '_' ∨ c = '-'

/-- A character of constants: a capital letter, a digit or an underscore. -/
def IsCapital (c : Char) : Prop := c.isUpper = true ∨ c.isDigit = true ∨ c = '_'

instance (c : Char) : Decidable (IsCapital c) :=
  inferInstanceAs (Decidable (c.isUpper = true ∨ c.isDigit = true ∨ c = '_'))

/-- What a plain character is in capitals. -/
def capital (c : Char) : Char := if c.isAlphanum then c.toUpper else '_'

theorem IsPlain.toNat_lt {c : Char} (h : IsPlain c) : c.toNat < 128 := by
  rcases h with h | rfl | rfl
  · exact Unicode.toNat_lt_of_isAlphanum h
  · decide
  · decide

set_option maxRecDepth 2000 in
theorem capital_ascii (n : Fin 128) :
    let c := Char.ofNat n
    IsCapital (capital c) ∧ (capital c).isAlphanum = c.isAlphanum ∧
      (capital c).isDigit = c.isDigit ∧ (IsCapital c → capital c = c ∧ c.isLower = false) := by
  revert n
  decide

theorem isCapital_capital {c : Char} (h : IsPlain c) : IsCapital (capital c) :=
  Unicode.forall_ascii (p := fun c => IsCapital (capital c)) (fun n => (capital_ascii n).1)
    h.toNat_lt

theorem isAlphanum_capital {c : Char} (h : IsPlain c) : (capital c).isAlphanum = c.isAlphanum :=
  Unicode.forall_ascii (p := fun c => (capital c).isAlphanum = c.isAlphanum)
    (fun n => (capital_ascii n).2.1) h.toNat_lt

theorem isDigit_capital {c : Char} (h : IsPlain c) : (capital c).isDigit = c.isDigit :=
  Unicode.forall_ascii (p := fun c => (capital c).isDigit = c.isDigit)
    (fun n => (capital_ascii n).2.2.1) h.toNat_lt

namespace IsCapital

variable {c : Char} (h : IsCapital c)
include h

theorem toNat_lt : c.toNat < 128 := by
  rcases h with h | h | rfl
  · exact (Unicode.isUpper_iff.mp h).2.trans_lt (by decide)
  · exact (Unicode.isDigit_iff.mp h).2.trans_lt (by decide)
  · decide

theorem unchanged : capital c = c ∧ c.isLower = false :=
  Unicode.forall_ascii (p := fun c => IsCapital c → capital c = c ∧ c.isLower = false)
    (fun n => (capital_ascii n).2.2.2) h.toNat_lt h

theorem starts (hdigit : c.isDigit = false) :
    (c == '_' || Unicode.isIdentifierStart c) = true := by
  rcases h with h | h | rfl
  · have halpha : c.isAlpha = true := by simp [Char.isAlpha, h]
    rw [Unicode.isIdentifierStart_of_isAlpha halpha, Bool.or_true]
  · cases hdigit.symm.trans h
  · rfl

theorem isIdentifierPart : Unicode.isIdentifierPart c = true := by
  refine Bool.or_eq_true_iff.mpr ?_
  rcases h with h | h | rfl
  · exact .inl (Unicode.isIdentifierStart_of_isAlpha (by simp [Char.isAlpha, h]))
  · refine .inr (List.any_eq_true.mpr ⟨(0x30, 0x39), .head _, ?_⟩)
    simpa using Unicode.isDigit_iff.mp h
  · exact .inr (List.any_eq_true.mpr ⟨(0x5F, 0x5F), .tail _ (.head _), rfl⟩)

end IsCapital

/-! ## Writing in capitals -/

/-- Each character is written in capitals, at times with an underscore before it, but never at the
start. -/
theorem screaming_cons {c : Char} (h : IsPlain c) (afterSmall : Bool) (rest : List Char) :
    ∃ gap ∈ [[], ['_']], ∃ afterSmall', screaming afterSmall (c :: rest) =
      gap ++ capital c :: screaming afterSmall' rest ∧ (afterSmall = false → gap = []) := by
  rw [screaming, Unicode.isUppercase_eq_isUpper h.toNat_lt]
  cases hupper : c.isUpper with
  | true =>
    have hcapital : IsCapital c := .inl hupper
    rw [hcapital.unchanged.1]
    cases afterSmall with
    | true => exact ⟨['_'], by simp, false, rfl, by simp⟩
    | false => exact ⟨[], by simp, false, rfl, by simp⟩
  | false =>
    refine ⟨[], by simp, ?_⟩
    rcases h with halnum | rfl | rfl
    · have hmark : ¬(c == '_' || c == '-') = true := by
        simp only [Bool.or_eq_true, beq_iff_eq]
        rintro (rfl | rfl) <;> cases halnum
      rw [if_neg Bool.false_ne_true, if_neg hmark, capital, if_pos halnum]
      exact ⟨true, rfl, fun _ => rfl⟩
    · exact ⟨false, rfl, fun _ => rfl⟩
    · exact ⟨false, rfl, fun _ => rfl⟩

theorem isCapital_of_mem_screaming {s : List Char} (h : ∀ c ∈ s, IsPlain c) {afterSmall : Bool}
    {d : Char} (hd : d ∈ screaming afterSmall s) : IsCapital d := by
  induction s generalizing afterSmall with
  | nil => cases hd
  | cons c s ih =>
    obtain ⟨hc, hs⟩ := List.forall_mem_cons.mp h
    obtain ⟨gap, hgap, afterSmall', hstep, -⟩ := screaming_cons hc afterSmall s
    rw [hstep] at hd
    rcases List.mem_append.mp hd with hd | hd
    · have hmark : d = '_' := by
        simp only [List.mem_cons, List.not_mem_nil, or_false] at hgap
        rcases hgap with rfl | rfl
        · cases hd
        · exact List.mem_singleton.mp hd
      exact .inr (.inr hmark)
    · rcases List.mem_cons.mp hd with rfl | hd
      · exact isCapital_capital hc
      · exact ih hs hd

theorem filter_screaming {s : List Char} (h : ∀ c ∈ s, IsPlain c) (afterSmall : Bool) :
    (screaming afterSmall s).filter Char.isAlphanum =
      (s.filter Char.isAlphanum).map Char.toUpper := by
  induction s generalizing afterSmall with
  | nil => rfl
  | cons c s ih =>
    obtain ⟨hc, hs⟩ := List.forall_mem_cons.mp h
    obtain ⟨gap, hgap, afterSmall', hstep, -⟩ := screaming_cons hc afterSmall s
    have hnone : gap.filter Char.isAlphanum = [] := by
      simp only [List.mem_cons, List.not_mem_nil, or_false] at hgap
      rcases hgap with rfl | rfl <;> decide
    rw [hstep, List.filter_append, hnone, List.nil_append, List.filter_cons, List.filter_cons,
      isAlphanum_capital hc, ih hs]
    split
    · rename_i halnum
      rw [List.map_cons, capital, if_pos halnum]
    · rfl

/-! ## Renames -/

theorem plain_of_isRename {name : String} (h : isRename name = true) :
    (∃ c rest, name.toList = c :: rest ∧ c.isDigit = false) ∧ (∀ d ∈ name.toList, IsPlain d) ∧
      ∃ d ∈ name.toList, d.isAlphanum = true := by
  unfold isRename at h
  split at h
  · cases h
  · rename_i c rest hname
    simp only [Bool.and_eq_true, Bool.or_eq_true, beq_iff_eq, List.all_eq_true,
      List.any_eq_true, or_assoc] at h
    obtain ⟨⟨hfirst, hrest⟩, hsome⟩ := h
    have hc : IsPlain c := by
      rcases hfirst with halpha | hmark
      · exact .inl (by simp [Char.isAlphanum, halpha])
      · exact .inr (.inl hmark)
    refine ⟨⟨c, rest, hname, ?_⟩, ?_, ?_⟩
    · rcases hfirst with halpha | rfl
      · rw [← Bool.not_eq_true, Unicode.isDigit_iff]
        have hbounds := Unicode.isAlpha_iff.mp halpha
        omega
      · rfl
    · rw [hname]
      exact List.forall_mem_cons.mpr ⟨hc, hrest⟩
    · rwa [hname]

theorem toList_constant (name : String) :
    (constant name).toList = screaming false name.toList := String.toList_ofList

theorem notMem_reservedWords {name : String} (h : ∀ c ∈ name.toList, IsCapital c) :
    name ∉ Identifier.reservedWords := by
  have hsmall : (Identifier.reservedWords.all fun word => word.toList.any Char.isLower) = true := by
    decide +kernel
  intro hmem
  obtain ⟨c, hc, hlower⟩ := List.any_eq_true.mp (List.all_eq_true.mp hsmall name hmem)
  rw [(h c hc).unchanged.2] at hlower
  cases hlower

/-- A constant in capitals is an identifier if it has a first character that is no digit, and some
character that is no underscore. -/
theorem isValid_of_capitals {name : String} (h : ∀ c ∈ name.toList, IsCapital c)
    (hfirst : ∃ c rest, name.toList = c :: rest ∧ c.isDigit = false) (hname : name ≠ "_") :
    Identifier.isValid name = true := by
  obtain ⟨c, rest, hchars, hdigit⟩ := hfirst
  have hreserved := notMem_reservedWords h
  rw [hchars] at h
  obtain ⟨hc, hrest⟩ := List.forall_mem_cons.mp h
  have hparts : rest.all Unicode.isIdentifierPart = true :=
    List.all_eq_true.mpr fun d hd => (hrest d hd).isIdentifierPart
  unfold Identifier.isValid
  rw [hchars]
  simp only [hc.starts hdigit, hparts, Bool.true_and, Bool.and_eq_true, bne_iff_ne, ne_eq, hname,
    not_false_iff, true_and, Bool.not_eq_true', List.contains_eq_mem, decide_eq_false_iff_not]
  exact hreserved

end AttributeName

/-! ## Errors of a derivation -/

namespace FieldOptions

theorem add_ne_invalidConstant (o : FieldOptions) (s : Setting) (name : String) :
    o.add s ≠ .error (.invalidConstant name) := by
  unfold add
  split
  · simp
  · split
    · simp
    · split <;> simp
  · simp
  · simp

theorem foldlM_add_ne_invalidConstant (settings : List Setting) (o : FieldOptions)
    (name : String) : settings.foldlM add o ≠ .error (.invalidConstant name) := by
  induction settings generalizing o with
  | nil => simp [pure, Except.pure]
  | cons s settings ih =>
    rw [List.foldlM_cons]
    intro h
    rcases error_or_of_bind_error h with hadd | ⟨added, -, hrest⟩
    · exact add_ne_invalidConstant o s name hadd
    · exact ih added hrest

theorem ofAnnotations_ne_invalidConstant (annotations : List Annotation) (name : String) :
    ofAnnotations annotations ≠ .error (.invalidConstant name) := by
  rw [ofAnnotations_eq, ofSettings]
  intro h
  rcases error_or_of_bind_error h with hfold | ⟨o, -, hreturn⟩
  · exact foldlM_add_ne_invalidConstant _ {} name hfold
  · split at hreturn <;> cases hreturn

end FieldOptions

theorem Field.attributeName?_ne_invalidConstant (f : Field) (name : String) :
    f.attributeName? ≠ .error (.invalidConstant name) := by
  intro h
  rcases error_or_of_bind_error h with hoptions | ⟨o, -, hreturn⟩
  · exact FieldOptions.ofAnnotations_ne_invalidConstant f.annotations name hoptions
  · split at hreturn <;> cases hreturn

namespace Slot

theorem invalid_of_make {before : List Slot} {field name name' : String}
    (h : make before field name' = .error (.invalidConstant name)) :
    Identifier.isValid (AttributeName.constant name) = false := by
  unfold make at h
  dsimp only at h
  split at h
  · cases h
  split at h
  · cases h
  split at h
  · rename_i hinvalid
    cases h
    simpa using hinvalid
  · cases h

theorem invalid_of_ofFields {before : List Slot} {fields : List Field} {name : String}
    (h : ofFields before fields = .error (.invalidConstant name)) :
    Identifier.isValid (AttributeName.constant name) = false := by
  induction fields generalizing before with
  | nil => cases h
  | cons f rest ih =>
    rcases error_or_of_bind_error h with hname | ⟨found, -, hrest⟩
    · exact absurd hname (f.attributeName?_ne_invalidConstant name)
    cases found with
    | none => exact ih hrest
    | some found =>
      rcases error_or_of_bind_error hrest with hmake | ⟨s, -, hrest⟩
      · exact invalid_of_make hmake
      · exact ih hrest

end Slot

theorem Declaration.invalid_of_derive {d : Declaration} {name : String}
    (h : d.derive = .error (.invalidConstant name)) :
    Identifier.isValid (AttributeName.constant name) = false := by
  rw [derive, map_eq_error_iff, slots] at h
  split at h
  · cases h
  · split at h
    · exact Slot.invalid_of_ofFields h
    · cases h
  all_goals cases h

/-- What is accepted as a rename has a constant that is an identifier, and this has the letters and
digits of the name. -/
theorem AttributeName.constant_of_rename {o o' : FieldOptions} {name : String}
    (h : o.add (.text "rename" name) = .ok o') :
    (∀ c ∈ (constant name).toList, c.isUpper = true ∨ c.isDigit = true ∨ c = '_') ∧
      (∃ first rest, (constant name).toList = first :: rest ∧ first.isDigit = false) ∧
      constant name ≠ "_" ∧ constant name ∉ Identifier.reservedWords ∧
      Identifier.isValid (constant name) = true ∧
      (∀ d : Declaration, d.derive ≠ .error (.invalidConstant name)) ∧
      (constant name).toList.filter Char.isAlphanum =
        (name.toList.filter Char.isAlphanum).map Char.toUpper := by
  have hrename : isRename name = true := by
    rcases FieldOptions.add_eq_ok_iff.mp h with ⟨hskip, -⟩ | ⟨renamed, htext, hrenamed, -⟩
    · cases hskip
    · cases htext
      exact hrenamed
  obtain ⟨⟨c, rest, hname, hdigit⟩, hplain, hsome⟩ := plain_of_isRename hrename
  have hcapitals : ∀ d ∈ (constant name).toList, IsCapital d := by
    rw [toList_constant]
    exact fun d => isCapital_of_mem_screaming hplain
  have hfirst : ∃ first rest, (constant name).toList = first :: rest ∧ first.isDigit = false := by
    have hc : IsPlain c := hplain c (hname ▸ List.mem_cons_self)
    obtain ⟨gap, -, afterSmall, hstep, hgap⟩ := screaming_cons hc false rest
    rw [hgap rfl, List.nil_append] at hstep
    exact ⟨_, _, by rw [toList_constant, hname, hstep], (isDigit_capital hc).trans hdigit⟩
  have hfilter : (constant name).toList.filter Char.isAlphanum =
      (name.toList.filter Char.isAlphanum).map Char.toUpper := by
    rw [toList_constant, filter_screaming hplain]
  have hmark : constant name ≠ "_" := by
    intro hmark
    obtain ⟨d, hd, halnum⟩ := hsome
    rw [hmark, eq_comm] at hfilter
    have hnone := List.filter_eq_nil_iff.mp (List.map_eq_nil_iff.mp hfilter) d hd
    exact hnone halnum
  have hvalid := isValid_of_capitals hcapitals hfirst hmark
  refine ⟨hcapitals, hfirst, hmark, notMem_reservedWords hcapitals, hvalid, fun d hd => ?_, hfilter⟩
  rw [Declaration.invalid_of_derive hd] at hvalid
  cases hvalid

/-- A rename with underscores, hyphens and digits side by side, and capitals after them. -/
theorem AttributeName.constant_of_rename_marks :
    FieldOptions.add {} (.text "rename" "_x-2yZ--") = .ok { rename := some "_x-2yZ--" } ∧
      constant "_x-2yZ--" = "_X_2Y_Z__" ∧ Identifier.isValid "_X_2Y_Z__" = true ∧
      ∀ d : Declaration, d.derive ≠ .error (.invalidConstant "_x-2yZ--") := by
  have haccepted : FieldOptions.add {} (.text "rename" "_x-2yZ--") =
      .ok { rename := some "_x-2yZ--" } := FieldOptions.add_rename {} (by decide +kernel)
  have hconstant : constant "_x-2yZ--" = "_X_2Y_Z__" := by decide +kernel
  obtain ⟨-, -, -, -, hvalid, hderive, -⟩ := constant_of_rename haccepted
  exact ⟨haccepted, hconstant, hconstant ▸ hvalid, hderive⟩

end RecordQuery
