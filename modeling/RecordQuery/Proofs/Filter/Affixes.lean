import RecordQuery.Proofs.Filter.AsciiCase

/-!
# Whole strings, their ends and their parts

The tests of a string against a text see both in one form, as they are or in lower case, and ask for
the place of the text in the string: all of it, its start, its end, or anywhere. So a string that
equals a text starts and ends with it, what it starts or ends with it contains, and the empty text
stands at every place.
-/

namespace RecordQuery.Filter

variable {path : SharedPath} {r : Record} {s : String}

/-- Where the form of a text stands in the form of a string is what the tests ask for. -/
theorem answer_place [Regex.Library] (hr : path.path.resolve r = .ok (some (.string s)))
    (ignoreCase : Bool) (x : String) (rest : List Argument) :
    let holds (op : Operator) := answer path op ignoreCase (.string x :: rest) r = .ok true
    let text := Test.caseForm ignoreCase x
    let whole := Test.caseForm ignoreCase s
    (holds .equals ↔ text = whole) ∧ (holds .startsWith ↔ text <+: whole) ∧
      (holds .endsWith ↔ text <:+ whole) ∧
      ∀ op ∈ [Operator.contains, .like], holds op ↔ text <:+: whole := by
  intro holds text whole
  have hholds {op : Operator} (hop : op ∈ Operator.ofCase) :
      holds op ↔ op.relates text whole = true := by
    simp only [holds, answer_ofCase hop hr, Except.ok.injEq, text, whole]
  refine ⟨(hholds (by decide)).trans (beq_iff_eq.trans eq_comm),
    (hholds (by decide)).trans List.isPrefixOf_iff_prefix,
    (hholds (by decide)).trans List.isSuffixOf_iff_suffix, fun op hop => ?_⟩
  rcases List.mem_pair.mp hop with rfl | rfl
  · exact (hholds (by decide)).trans Text.occursIn_iff
  · exact (hholds (by decide)).trans Text.occursIn_iff

/-- With case or without, equality to a text is the strongest test of a string and containment the
weakest, with the tests of the start and of the end between them. -/
theorem equality_above_containment [Regex.Library]
    (hr : path.path.resolve r = .ok (some (.string s))) (ignoreCase : Bool) (x : String)
    (rest : List Argument) :
    let holds (op : Operator) := answer path op ignoreCase (.string x :: rest) r = .ok true
    let text := Test.caseForm ignoreCase x
    let whole := Test.caseForm ignoreCase s
    ((holds .equals ↔ text = whole) ∧ (holds .startsWith ↔ ∃ behind, text ++ behind = whole) ∧
      (holds .endsWith ↔ ∃ ahead, ahead ++ text = whole) ∧
      ∀ op ∈ [Operator.contains, .like],
        holds op ↔ ∃ ahead behind, ahead ++ text ++ behind = whole) ∧
    (holds .equals → holds .startsWith ∧ holds .endsWith) ∧
    (holds .startsWith → holds .contains ∧ holds .like) ∧
    (holds .endsWith → holds .contains ∧ holds .like) ∧
    (x = "" → ∀ op ∈ [Operator.startsWith, .endsWith, .contains, .like], holds op) := by
  intro holds text whole
  obtain ⟨hequals, hstart, hend, hpart⟩ := answer_place hr ignoreCase x rest
  have hinfix (h : text <:+: whole) : holds .contains ∧ holds .like :=
    ⟨(hpart .contains (by decide)).mpr h, (hpart .like (by decide)).mpr h⟩
  refine ⟨⟨hequals, hstart, hend, hpart⟩, fun h => ?_,
    fun h => hinfix (List.IsPrefix.isInfix (hstart.mp h)),
    fun h => hinfix (List.IsSuffix.isInfix (hend.mp h)), ?_⟩
  · have hsame : text = whole := hequals.mp h
    have hfirst : text <+: whole := ⟨[], (List.append_nil text).trans hsame⟩
    have hlast : text <:+ whole := ⟨[], (List.nil_append text).trans hsame⟩
    exact ⟨hstart.mpr hfirst, hend.mpr hlast⟩
  · rintro rfl
    have hempty : text = [] := by cases ignoreCase <;> rfl
    have hfirst : text <+: whole := by rw [hempty]; exact List.nil_prefix
    have hlast : text <:+ whole := by rw [hempty]; exact List.nil_suffix
    simp only [List.mem_cons, List.not_mem_nil, or_false, forall_eq_or_imp, forall_eq]
    exact ⟨hstart.mpr hfirst, hend.mpr hlast, hinfix hfirst.isInfix⟩

/-- A word equals its own lower-case form where case is ignored, with a sigma inside that is not
final. -/
theorem equality_above_containment_sigma :
    let path : SharedPath := ⟨0, "v", by decide⟩
    let r : Record := ⟨⟨0, "T", ["v"]⟩, [.string "ΑΣΑ"]⟩
    let holds (op : Operator) (x : String) := answer path op true [.string x] r = .ok true
    path.path.resolve r = .ok (some (.string "ΑΣΑ")) ∧ holds .equals "ασα" ∧
      holds .startsWith "ασα" ∧ holds .endsWith "ασα" ∧ holds .contains "ασα" ∧ holds .like "ασα" ∧
      holds .startsWith "" ∧ ¬holds .equals "" := by
  intro path r holds
  have hr : path.path.resolve r = .ok (some (.string "ΑΣΑ")) := by cbv
  obtain ⟨⟨hequals, -⟩, hends, hstart, -⟩ := equality_above_containment hr true "ασα" []
  obtain ⟨⟨hequals', -⟩, -, -, -, hempty⟩ := equality_above_containment hr true "" []
  have hsame : holds .equals "ασα" := hequals.mpr (by decide +kernel)
  obtain ⟨hfirst, hlast⟩ := hends hsame
  obtain ⟨hpart, hlike⟩ := hstart hfirst
  exact ⟨hr, hsame, hfirst, hlast, hpart, hlike, hempty rfl _ (by decide),
    mt hequals'.mp (by decide +kernel)⟩

end RecordQuery.Filter
