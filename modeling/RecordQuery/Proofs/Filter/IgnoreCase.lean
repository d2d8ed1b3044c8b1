import RecordQuery.Proofs.Filter.Groups
import RecordQuery.Proofs.Path.Concatenation
import RecordQuery.Proofs.Unicode.Sigma
import RecordQuery.Regex.Standard

/-!
# Ignoring case

Ignoring case lower-cases a value and an argument each by itself. Equal texts stay equal so, but a
capital sigma at the edge of an argument may have another form there than inside the value, and a
part of the value is then no part of it in lower case. Without such a sigma, what passes a test
still passes it when case is ignored.
-/

namespace RecordQuery

open Unicode

/-! ## Records that a path leads through -/

namespace PropertyPath

theorem step_single (name : String) (v : Value) : step name ⟨⟨0, "", [name]⟩, [v]⟩ = .ok v := by
  simp [step, Record.get?, RecordType.slotOf?, Record.valueAt]

theorem exists_follow {v : Value} (hv : v.isNull = false) (name : String) (rest : List String) :
    ∃ r, follow (name :: rest) r = .ok (some v) := by
  induction rest generalizing name with
  | nil =>
    refine ⟨⟨⟨0, "", [name]⟩, [v]⟩, ?_⟩
    rw [follow, step_single]
    simp only [bind, Except.bind, hv]
    rfl
  | cons next rest ih =>
    obtain ⟨inner, hinner⟩ := ih next
    refine ⟨⟨⟨0, "", [name]⟩, [inner.toValue]⟩, ?_⟩
    rw [follow, step_single]
    exact hinner

theorem exists_resolve (p : PropertyPath) {v : Value} (hv : v.isNull = false) :
    ∃ r, p.resolve r = .ok (some v) := by
  obtain ⟨name, rest, hsegments⟩ := p.exists_segments_eq_cons
  obtain ⟨r, hr⟩ := exists_follow hv name rest
  exact ⟨r, by rw [resolve, hsegments, hr]⟩

end PropertyPath

/-! ## Tests of a text -/

/-- The operators that look at the letters of a text. -/
def Operator.ofLetters : List Operator := [.equals, .startsWith, .endsWith, .contains, .like]

namespace Test

/-- The test that such an operator makes of a text. -/
def ofText (op : Operator) (ignoreCase : Bool) (x : String) : Test :=
  match op with
  | .equals => .equals (.string x) ignoreCase false
  | .startsWith => .startsWith (caseForm ignoreCase x) ignoreCase
  | .endsWith => .endsWith (caseForm ignoreCase x) ignoreCase
  | _ => .contains (.string x) ignoreCase

/-- Whether a value passes the test. -/
def Accepts (op : Operator) (ignoreCase : Bool) (x : String) (v : Option Value) : Prop :=
  (ofText op ignoreCase x).run v = .ok true

variable {ignoreCase : Bool} {x s : String}

theorem hasSubstring_iff {text : String} :
    hasSubstring ignoreCase text (.string x) = true ↔
      caseForm ignoreCase x <:+: caseForm ignoreCase text :=
  Text.occursIn_iff

theorem accepts_startsWith_iff :
    Accepts .startsWith ignoreCase x (some (.string s)) ↔
      caseForm ignoreCase x <+: caseForm ignoreCase s := by
  simp [Accepts, ofText, run, Value.toString?]

theorem accepts_endsWith_iff :
    Accepts .endsWith ignoreCase x (some (.string s)) ↔
      caseForm ignoreCase x <:+ caseForm ignoreCase s := by
  simp [Accepts, ofText, run, Value.toString?]

theorem accepts_contains_iff {op : Operator} (hop : op = .contains ∨ op = .like) {v : Value} :
    Accepts op ignoreCase x (some v) ↔ holdsNeedle ignoreCase (.string x) v = true := by
  rcases hop with rfl | rfl <;> simp [Accepts, ofText, run]

theorem sameValue_of_exact {a b : Value} (h : sameValue false a b = true) :
    sameValue true a b = true := by
  unfold sameValue at h ⊢
  split at h
  · have hchars := eq_of_beq h
    simp only [caseForm] at hchars ⊢
    simpa using congrArg lowercase hchars
  · exact h

/-- Items and entries are compared whole, so ignoring case finds all of them again. -/
theorem holdsNeedle_of_collection {needle v : Value} (hv : v.kind = .list ∨ v.kind = .map)
    (h : holdsNeedle false needle v = true) : holdsNeedle true needle v = true := by
  cases v with
  | list items =>
    obtain ⟨item, hmem, hitem⟩ := List.any_eq_true.mp h
    exact List.any_eq_true.mpr ⟨item, hmem, sameValue_of_exact hitem⟩
  | map entries =>
    obtain ⟨e, hmem, he⟩ := List.any_eq_true.mp h
    exact List.any_eq_true.mpr ⟨e, hmem, sameValue_of_exact he⟩
  | _ => rcases hv with hv | hv <;> cases hv

theorem holdsNeedle_of_other {v : Value} (hv : ¬(v.kind = .list ∨ v.kind = .map)) :
    holdsNeedle ignoreCase (.string x) v = true ↔
      caseForm ignoreCase x <:+: caseForm ignoreCase v.toText := by
  rw [← hasSubstring_iff]
  cases v with
  | list items => exact absurd (.inl rfl) hv
  | map entries => exact absurd (.inr rfl) hv
  | _ => rfl

/-! ## Parts in lower case -/

theorem accepts_equals_of_exact {v : Option Value} (h : Accepts .equals false x v) :
    Accepts .equals true x v := by
  cases v with
  | none => exact h
  | some v =>
    simp only [Accepts, ofText, run, sameAttribute, Bool.bne_false, Except.ok.injEq] at h ⊢
    exact sameValue_of_exact h

theorem exists_string_of_accepts {op : Operator} (hop : op = .startsWith ∨ op = .endsWith)
    {v : Option Value} (h : Accepts op ignoreCase x v) : ∃ s, v = some (.string s) := by
  rcases hop with rfl | rfl <;> cases v with
  | none => cases h
  | some v =>
    cases v with
    | string s => exact ⟨s, rfl⟩
    | _ => cases h

theorem accepts_startsWith_ignoring (h : Accepts .startsWith false x (some (.string s))) :
    Accepts .startsWith true x (some (.string s)) ↔
      ¬(EndsInSigma x.toList ∧ startsCased (s.toList.drop x.toList.length) = true) := by
  obtain ⟨rest, hrest⟩ : x.toList <+: s.toList := accepts_startsWith_iff.mp h
  rw [accepts_startsWith_iff, ← hrest, List.drop_left, ← lowercase_prefix_iff, hrest]
  rfl

theorem accepts_endsWith_ignoring (h : Accepts .endsWith false x (some (.string s))) :
    Accepts .endsWith true x (some (.string s)) ↔
      ¬(BeginsWithSigma x.toList ∧
        startsCased (s.toList.reverse.drop x.toList.length) = true) := by
  obtain ⟨front, hfront⟩ : x.toList <:+ s.toList := accepts_endsWith_iff.mp h
  rw [accepts_endsWith_iff, ← hfront, List.reverse_append, ← List.length_reverse, List.drop_left,
    ← lowercase_suffix_iff, hfront]
  rfl

end Test

/-- An argument with a capital sigma at an edge where the value can go on. -/
def Operator.EdgeSigma (x : List Char) : Operator → Prop
  | .startsWith => EndsInSigma x
  | .endsWith => BeginsWithSigma x
  | .contains | .like => EndsInSigma x ∨ BeginsWithSigma x
  | _ => False

namespace Test

variable {x : String} {op : Operator}

theorem accepts_of_exact (hop : op ∈ Operator.ofLetters) (hsigma : ¬op.EdgeSigma x.toList)
    {v : Option Value} (h : Accepts op false x v) : Accepts op true x v := by
  have hcontains (hop : op = .contains ∨ op = .like)
      (hends : ¬EndsInSigma x.toList) (hbegins : ¬BeginsWithSigma x.toList) :
      Accepts op true x v := by
    cases v with
    | none => rcases hop with rfl | rfl <;> cases h
    | some v =>
      rw [accepts_contains_iff hop] at h ⊢
      by_cases hv : v.kind = .list ∨ v.kind = .map
      · exact holdsNeedle_of_collection hv h
      · rw [holdsNeedle_of_other hv] at h ⊢
        obtain ⟨a, b, hab⟩ := h
        have hinfix : lowercase x.toList <:+: lowercase (a ++ x.toList ++ b) :=
          lowercase_infix (fun h => hends h.1) fun h => hbegins h.1
        rw [show a ++ x.toList ++ b = v.toText.toList from hab] at hinfix
        exact hinfix
  simp only [Operator.ofLetters, List.mem_cons, List.not_mem_nil, or_false] at hop
  rcases hop with rfl | rfl | rfl | rfl | rfl
  · exact accepts_equals_of_exact h
  · obtain ⟨s, rfl⟩ := exists_string_of_accepts (.inl rfl) h
    exact (accepts_startsWith_ignoring h).mpr fun h => hsigma h.1
  · obtain ⟨s, rfl⟩ := exists_string_of_accepts (.inr rfl) h
    exact (accepts_endsWith_ignoring h).mpr fun h => hsigma h.1
  · exact hcontains (.inl rfl) (mt .inl hsigma) (mt .inr hsigma)
  · exact hcontains (.inr rfl) (mt .inl hsigma) (mt .inr hsigma)

/-- A letter next to the sigma makes a value that the argument is part of, but not in lower
case. -/
theorem exists_lost (hsigma : op.EdgeSigma x.toList) :
    ∃ s, Accepts op false x (some (.string s)) ∧ ¬Accepts op true x (some (.string s)) := by
  have hnext : (x ++ "a").toList = x.toList ++ ['a'] := by simp
  have hahead : ("a" ++ x).toList = 'a' :: x.toList := by simp
  have hother (s : String) : ¬((Value.string s).kind = .list ∨ (Value.string s).kind = .map) := by
    simp [Value.kind]
  have hcontains (hop : op = .contains ∨ op = .like)
      (hsigma : EndsInSigma x.toList ∨ BeginsWithSigma x.toList) :
      ∃ s, Accepts op false x (some (.string s)) ∧ ¬Accepts op true x (some (.string s)) := by
    simp only [accepts_contains_iff hop, holdsNeedle_of_other (hother _), caseForm, Value.toText]
    rcases hsigma with hsigma | hsigma
    · exact ⟨x ++ "a", hnext ▸ (List.prefix_append _ _).isInfix, hnext ▸ hsigma.lost⟩
    · exact ⟨"a" ++ x, hahead ▸ (List.suffix_cons _ _).isInfix, hahead ▸ hsigma.lost⟩
  cases op with
  | startsWith =>
    have hpart : x.toList <+: (x ++ "a").toList := hnext ▸ List.prefix_append _ _
    refine ⟨x ++ "a", accepts_startsWith_iff.mpr hpart, fun h => ?_⟩
    exact EndsInSigma.lost hsigma (hnext ▸ (accepts_startsWith_iff.mp h).isInfix)
  | endsWith =>
    have hpart : x.toList <:+ ("a" ++ x).toList := hahead ▸ List.suffix_cons _ _
    refine ⟨"a" ++ x, accepts_endsWith_iff.mpr hpart, fun h => ?_⟩
    exact BeginsWithSigma.lost hsigma (hahead ▸ (accepts_endsWith_iff.mp h).isInfix)
  | contains => exact hcontains (.inl rfl) hsigma
  | like => exact hcontains (.inr rfl) hsigma
  | _ => exact hsigma.elim

end Test

namespace Filter

section

variable [Regex.Library]

/-- Whether a record passes the filter that an operator makes of a path and a text. -/
def Holds (path : SharedPath) (op : Operator) (ignoreCase : Bool) (x : String) (r : Record) :
    Prop :=
  ∃ f, build path op ignoreCase [.string x] = .ok f ∧ f.passes r = .ok true

theorem holds_iff {path : SharedPath} {op : Operator} {ignoreCase : Bool} {x : String} {r : Record}
    (hop : op ∈ Operator.ofLetters) :
    Holds path op ignoreCase x r ↔
      ∃ v, path.path.resolve r = .ok v ∧ Test.Accepts op ignoreCase x v := by
  have hbuild : build path op ignoreCase [.string x] =
      .ok (leaf ⟨path, op, ignoreCase, [.string x], .ofText op ignoreCase x⟩) := by
    simp only [Operator.ofLetters, List.mem_cons, List.not_mem_nil, or_false] at hop
    rcases hop with rfl | rfl | rfl | rfl | rfl <;> rfl
  simp only [Holds, hbuild, Except.ok.injEq, exists_eq_left', passes_leaf]
  constructor
  · intro h
    cases hresolve : path.path.resolve r with
    | error e =>
      rw [hresolve] at h
      cases h
    | ok v =>
      rw [hresolve] at h
      exact ⟨v, rfl, h⟩
  · rintro ⟨v, hresolve, hv⟩
    rw [hresolve]
    exact hv

theorem holds_iff_of_resolve {path : SharedPath} {op : Operator} {ignoreCase : Bool} {x : String}
    {r : Record} {v : Value} (hop : op ∈ Operator.ofLetters)
    (h : path.path.resolve r = .ok (some v)) :
    Holds path op ignoreCase x r ↔ Test.Accepts op ignoreCase x (some v) := by
  simp [holds_iff hop, h]

/-- What passes an exact test of a text passes it when case is ignored, for all records exactly if
the text has no sigma at an edge where a value can go on. -/
theorem ignoring_case_keeps_matches_iff (path : SharedPath) (x : String) :
    (∀ op ∈ Operator.ofLetters,
      (∀ r, Holds path op false x r → Holds path op true x r) ↔ ¬op.EdgeSigma x.toList) ∧
    ∀ r : Record,
      (∀ s, path.path.resolve r = .ok (some (.string s)) →
        (Holds path .startsWith false x r →
          (Holds path .startsWith true x r ↔
            ¬(EndsInSigma x.toList ∧ startsCased (s.toList.drop x.toList.length) = true))) ∧
        (Holds path .endsWith false x r →
          (Holds path .endsWith true x r ↔
            ¬(BeginsWithSigma x.toList ∧
              startsCased (s.toList.reverse.drop x.toList.length) = true))) ∧
        ∀ op ∈ [Operator.contains, .like], ∀ a b, s.toList = a ++ x.toList ++ b →
          ¬(EndsInSigma x.toList ∧ startsCased b = true) →
          ¬(BeginsWithSigma x.toList ∧ startsCased a.reverse = true) →
          Holds path op true x r) ∧
      ∀ v, path.path.resolve r = .ok (some v) → v.kind = .list ∨ v.kind = .map →
        ∀ op ∈ [Operator.contains, .like], Holds path op false x r → Holds path op true x r := by
  have hletters {op : Operator} (hop : op = .contains ∨ op = .like) : op ∈ Operator.ofLetters := by
    rcases hop with rfl | rfl <;> decide
  refine ⟨fun op hop => ⟨fun hkept hsigma => ?_, fun hsigma r h => ?_⟩, fun r =>
    ⟨fun s hs => ⟨?_, ?_, fun op hop a b hab hends hbegins => ?_⟩, fun v hv hkind op hop h => ?_⟩⟩
  · obtain ⟨s, hexact, hlost⟩ := Test.exists_lost hsigma
    obtain ⟨r, hr⟩ := path.path.exists_resolve (v := .string s) rfl
    have hkept := hkept r
    rw [holds_iff_of_resolve hop hr, holds_iff_of_resolve hop hr] at hkept
    exact hlost (hkept hexact)
  · obtain ⟨v, hv, haccepts⟩ := (holds_iff hop).mp h
    exact (holds_iff hop).mpr ⟨v, hv, Test.accepts_of_exact hop hsigma haccepts⟩
  · rw [holds_iff_of_resolve (by decide) hs, holds_iff_of_resolve (by decide) hs]
    exact Test.accepts_startsWith_ignoring
  · rw [holds_iff_of_resolve (by decide) hs, holds_iff_of_resolve (by decide) hs]
    exact Test.accepts_endsWith_ignoring
  · have hop : op = .contains ∨ op = .like := by simpa using hop
    rw [holds_iff_of_resolve (hletters hop) hs, Test.accepts_contains_iff hop,
      Test.holdsNeedle_of_other (by simp [Value.kind])]
    have hinfix := lowercase_infix hends hbegins
    rw [← hab] at hinfix
    exact hinfix
  · have hop : op = .contains ∨ op = .like := by simpa using hop
    rw [holds_iff_of_resolve (hletters hop) hv, Test.accepts_contains_iff hop] at h ⊢
    exact Test.holdsNeedle_of_collection hkind h

end

/-- A word that is cut off behind its sigma is not found in its own lower-case form. -/
theorem ignoring_case_loses_match :
    let path : SharedPath := ⟨0, "v", by decide⟩
    let r : Record := ⟨⟨0, "T", ["v"]⟩, [.string "ΑΣΑ"]⟩
    path.path.resolve r = .ok (some (.string "ΑΣΑ")) ∧
      Holds path .startsWith false "ΑΣ" r ∧ ¬Holds path .startsWith true "ΑΣ" r := by
  intro path r
  have hresolve : path.path.resolve r = .ok (some (.string "ΑΣΑ")) := by cbv
  have hholds (ignoreCase : Bool) : Holds path .startsWith ignoreCase "ΑΣ" r ↔
      Test.caseForm ignoreCase "ΑΣ" <+: Test.caseForm ignoreCase "ΑΣΑ" :=
    (holds_iff_of_resolve (by decide) hresolve).trans Test.accepts_startsWith_iff
  have hexact : Test.caseForm false "ΑΣ" <+: Test.caseForm false "ΑΣΑ" := by decide +kernel
  have hlost : ¬Test.caseForm true "ΑΣ" <+: Test.caseForm true "ΑΣΑ" := by decide +kernel
  exact ⟨hresolve, (hholds false).mpr hexact, mt (hholds true).mp hlost⟩

end Filter

end RecordQuery
