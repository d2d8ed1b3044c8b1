import RecordQuery.Proofs.Filter.AsciiCase
import RecordQuery.Proofs.Filter.Coercion
import RecordQuery.Proofs.Filter.IgnoreCase

/-!
# Spellings of a condition

An operator and another name for it make filters that answer alike, and fail to be built alike, down
to the name in the error. The word on letter case is a mere label on an operator that does not look
at letters: with it and without it the same is built, and it is not shown. On all other operators it
is shown, and some record is answered differently.
-/

namespace RecordQuery

namespace Operator

variable {op : Operator}

theorem isSupported_canonical (op : Operator) : op.canonical.isSupported = op.isSupported := by
  cases op <;> rfl

theorem arity_canonical (op : Operator) : op.canonical.arity = op.arity := by
  cases op <;> rfl

theorem canonical_eq_or_mem (op : Operator) :
    op.canonical = op ∨ op ∈ ofArgument ∧ op.canonical ∈ ofArgument := by
  cases op <;> decide

theorem arity_of_mem_ofArgument (h : op ∈ ofArgument) : op.arity = 1 := by
  revert h
  cases op <;> decide

theorem mem_ofCase_or_eq (h : op.isCaseSensitive = true) : op ∈ ofCase ∨ op = .matchesPattern := by
  revert h
  cases op <;> decide

theorem arity_of_isCaseSensitive (h : op.isCaseSensitive = true) : op.arity = 1 := by
  revert h
  cases op <;> decide

end Operator

/-- The error with the name of another operator in it. -/
def QueryError.naming (op : Operator) : QueryError → QueryError
  | unsupportedOperator _ => unsupportedOperator op
  | missingArgument _ expected supplied => missingArgument op expected supplied
  | e => e

theorem Test.run_ofArgument_canonical (op : Operator) (ignoreCase : Bool) (x : Argument)
    (v : Option Value) :
    (ofArgument op.canonical ignoreCase x).run v = (ofArgument op ignoreCase x).run v := by
  cases op <;> rfl

namespace Filter

/-- Filters that answer alike, whatever the record and however its properties are read. -/
def AnswersAlike (f g : Filter) : Prop :=
  ∀ (m : Type → Type) [Monad m] (read : PathReader m) (r : Record),
    f.passesVia read r = g.passesVia read r

theorem AnswersAlike.refl (f : Filter) : AnswersAlike f f := fun _ _ _ _ => rfl

theorem AnswersAlike.leaf {l l' : Leaf} (hpath : l.path = l'.path)
    (htest : ∀ v, l.test.run v = l'.test.run v) : AnswersAlike (leaf l) (leaf l') := by
  intro m _ read r
  simp only [passesVia, Leaf.passesVia, hpath, htest]

/-- The filter with another word on letter case in its leaves, and with the tests as they are. -/
def relabel (ignoreCase : Bool) : Filter → Filter
  | .leaf l => .leaf { l with ignoreCase }
  | .and a b => .and (a.relabel ignoreCase) (b.relabel ignoreCase)
  | .or a b => .or (a.relabel ignoreCase) (b.relabel ignoreCase)

theorem answersAlike_relabel (ignoreCase : Bool) (f : Filter) :
    AnswersAlike (f.relabel ignoreCase) f := by
  intro m _ read r
  induction f with
  | leaf l => rfl
  | and a b iha ihb => simp only [relabel, passesVia, iha, ihb]
  | or a b iha ihb => simp only [relabel, passesVia, iha, ihb]

theorem toText_relabel (ignoreCase : Bool) {f : Filter}
    (h : ∀ l ∈ f.leaves, l.operator.isCaseSensitive = false) :
    (f.relabel ignoreCase).toText = f.toText := by
  induction f with
  | leaf l =>
    have hop : l.operator.isCaseSensitive = false := h l (List.mem_singleton_self l)
    simp only [relabel, toText, Leaf.toText, hop, Bool.and_false]
  | and a b iha ihb | or a b iha ihb =>
    simp only [leaves, List.forall_mem_append] at h
    simp only [relabel, toText, iha h.1, ihb h.2]

/-! ## Other names -/

section

variable [Regex.Library] {path : SharedPath} {op : Operator} {ignoreCase : Bool}
  {args : List Argument}

theorem Fault.canonical {e : QueryError} (h : Fault op ignoreCase args e) :
    Fault op.canonical ignoreCase args (e.naming op.canonical) := by
  cases h with
  | operator hop => exact .operator (op.isSupported_canonical.trans hop)
  | arguments hop hfew =>
    rw [← op.isSupported_canonical] at hop
    rw [← op.arity_canonical] at hfew ⊢
    exact .arguments hop hfew
  | pattern hop henough hfault =>
    obtain ⟨rfl, -⟩ := id hfault
    exact .pattern hop henough hfault

theorem exists_build_canonical {f : Filter} (h : build path op ignoreCase args = .ok f) :
    ∃ g, build path op.canonical ignoreCase args = .ok g ∧ AnswersAlike f g := by
  rcases op.canonical_eq_or_mem with heq | ⟨hop, hcanonical⟩
  · rw [heq]
    exact ⟨f, h, .refl f⟩
  · have henough := (headings_of_build path h).1
    rw [Operator.arity_of_mem_ofArgument hop] at henough
    cases args with
    | nil => cases henough
    | cons x rest =>
      cases (build_ofArgument hop path ignoreCase x rest).symm.trans h
      refine ⟨_, build_ofArgument hcanonical path ignoreCase x rest, .leaf rfl fun v => ?_⟩
      exact (Test.run_ofArgument_canonical op ignoreCase x v).symm

/-! ## The word on letter case -/

theorem ofOperator_relabel (hop : op.isCaseSensitive = false) (path : SharedPath)
    (word word' : Bool) (own : List Argument) :
    ofOperator path op word own = (ofOperator path op word' own).map (relabel word) := by
  cases op with
  | equals | notEquals | startsWith | endsWith | contains | like | matchesPattern => cases hop
  | _ => rcases own with _ | ⟨x, _ | ⟨y, _ | ⟨z, rest⟩⟩⟩ <;> rfl

theorem build_relabel (hop : op.isCaseSensitive = false) (path : SharedPath) (word word' : Bool)
    (args : List Argument) :
    build path op word args = (build path op word' args).map (relabel word) := by
  unfold build
  split_ifs
  · rfl
  · rfl
  · exact ofOperator_relabel hop path word word' _

theorem isCaseSensitive_of_build {f : Filter} (h : build path op ignoreCase args = .ok f)
    (hop : op.isCaseSensitive = false) : ∀ l ∈ f.leaves, l.operator.isCaseSensitive = false := by
  intro l hl
  have hheading : l.heading ∈ headings path.dotted op ignoreCase (args.take op.arity) :=
    (headings_of_build path h).2 ▸ List.mem_map_of_mem hl
  show l.heading.operator.isCaseSensitive = false
  unfold headings at hheading
  split at hheading
  · rcases List.mem_pair.mp hheading with heq | heq <;> rw [heq] <;> rfl
  · rw [List.mem_singleton.mp hheading]
    exact hop

/-! ## Operators that look at letters -/

theorem exists_leaf_of_build {f : Filter} (hop : op.isCaseSensitive = true)
    (h : build path op ignoreCase args = .ok f) :
    ∃ test, f = .leaf ⟨path, op, ignoreCase, args.take 1, test⟩ := by
  have henough := (headings_of_build path h).1
  rw [Operator.arity_of_isCaseSensitive hop] at henough
  cases args with
  | nil => cases henough
  | cons x rest =>
    rcases Operator.mem_ofCase_or_eq hop with hop | rfl
    · have hop : op ∈ Operator.ofArgument := (by decide : Operator.ofCase ⊆ _) hop
      cases (build_ofArgument hop path ignoreCase x rest).symm.trans h
      exact ⟨_, rfl⟩
    · have hbuild : build path .matchesPattern ignoreCase (x :: rest) =
          (Test.ofMatch ignoreCase x).map
            fun test => .leaf ⟨path, .matchesPattern, ignoreCase, [x], test⟩ :=
        build_of_enough path rfl henough
      obtain ⟨test, -, rfl⟩ := map_eq_ok_iff.mp (hbuild.symm.trans h)
      exact ⟨test, rfl⟩

/-- Each of them tells apart the two words on letter case, on a letter in the other case. -/
theorem exists_told_apart (doc : Regex.Manual) (path : SharedPath)
    (hop : op.isCaseSensitive = true) :
    ∃ x r, answer path op true [x] r ≠ answer path op false [x] r := by
  obtain ⟨r, hr⟩ := path.path.exists_resolve (v := .string "A") rfl
  refine ⟨.string "a", r, ?_⟩
  rcases Operator.mem_ofCase_or_eq hop with hop | rfl
  · rw [answer_ofCase hop hr, answer_ofCase hop hr]
    have hlower : Test.caseForm true "a" = ['a'] ∧ Test.caseForm true "A" = ['a'] := by
      decide +kernel
    rw [hlower.1, hlower.2]
    revert hop
    cases op <;> decide
  · have hanswer (word : Bool) : answer path .matchesPattern word [.string "a"] r = .ok word := by
      obtain ⟨e, he, hmatch⟩ := doc.isMatch_letter word
      rw [answer, build_text_eq_ok_iff.mpr ⟨e, he, rfl⟩]
      exact (passes_matchesRegex hr _).trans (congrArg Except.ok hmatch)
    rw [hanswer, hanswer]
    decide

/-- Another name of an operator makes the same but for the name in the error, and the word on letter
case is shown exactly where it can matter. -/
theorem build_spelling (doc : Regex.Manual) (path : SharedPath) (op : Operator)
    (args : List Argument) :
    (∀ ignoreCase,
      let built := build path op ignoreCase args
      let canonical := build path op.canonical ignoreCase args
      (∀ e, built = .error e → canonical = .error (e.naming op.canonical)) ∧
        ∀ f, built = .ok f → ∃ g, canonical = .ok g ∧ AnswersAlike f g) ∧
    (op.isCaseSensitive = false →
      (∀ e, build path op true args = .error e ↔ build path op false args = .error e) ∧
        ∀ f, build path op true args = .ok f →
          ∃ g, build path op false args = .ok g ∧ AnswersAlike f g ∧ f.toText = g.toText) ∧
    (op.isCaseSensitive = true →
      (∀ f g, build path op true args = .ok f → build path op false args = .ok g →
        f.toText = g.toText ++ " (ignore case)") ∧
      ∃ x r, answer path op true [x] r ≠ answer path op false [x] r) := by
  refine ⟨fun ignoreCase => ⟨fun e h => ?_, fun f h => exists_build_canonical h⟩, fun hop =>
    ⟨fun e => ?_, fun f h => ?_⟩, fun hop => ⟨fun f g hf hg => ?_, exists_told_apart doc path hop⟩⟩
  · exact build_of_fault path ((build_eq_error_iff path).mp h).canonical
  · rw [build_relabel hop path true false args, map_eq_error_iff]
  · rw [build_relabel hop path true false args] at h
    obtain ⟨g, hg, rfl⟩ := map_eq_ok_iff.mp h
    exact ⟨g, hg, answersAlike_relabel true g,
      toText_relabel true (isCaseSensitive_of_build hg hop)⟩
  · obtain ⟨test, rfl⟩ := exists_leaf_of_build hop hf
    obtain ⟨test', rfl⟩ := exists_leaf_of_build hop hg
    simp [toText, Leaf.toText, hop]

end

/-- Another name without its argument, an interval with the word on letter case, and a match with
it. -/
theorem build_spelling_interval :
    let path : SharedPath := ⟨0, "v", by decide⟩
    let one : Argument := .number (.signed 1)
    let interval (word : Bool) := build path .between word [one, .null]
    let same (word : Bool) := build path .equals word [.string "a"]
    build path .after true [] = .error (.missingArgument .after 1 0) ∧
      build path .greaterThan true [] = .error (.missingArgument .greaterThan 1 0) ∧
      (∃ f g, build path .like true [.string "a"] = .ok f ∧
        build path .contains true [.string "a"] = .ok g ∧ AnswersAlike f g) ∧
      (∃ f g, interval true = .ok f ∧ interval false = .ok g ∧ AnswersAlike f g ∧
        f.toText = g.toText) ∧
      ∃ f g, same true = .ok f ∧ same false = .ok g ∧ f.toText = g.toText ++ " (ignore case)" := by
  intro path one interval same
  let doc := Regex.Standard.manual
  obtain ⟨hother, -, -⟩ := build_spelling doc path .after []
  obtain ⟨hpart, -, -⟩ := build_spelling doc path .like [.string "a"]
  obtain ⟨-, hplain, -⟩ := build_spelling doc path .between [one, .null]
  obtain ⟨-, -, hletters⟩ := build_spelling doc path .equals [.string "a"]
  obtain ⟨g, hg, hagree⟩ := (hpart true).2 _ rfl
  obtain ⟨g', hg', hagree', htext⟩ := (hplain rfl).2 _ rfl
  exact ⟨rfl, (hother true).1 _ rfl, ⟨_, g, rfl, hg, hagree⟩, ⟨_, g', rfl, hg', hagree', htext⟩,
    _, _, rfl, rfl, (hletters rfl).1 _ _ rfl rfl⟩

end Filter

end RecordQuery
