import RecordQuery.Proofs.Filter.Answer
import RecordQuery.Proofs.Unicode.AsciiCase
import RecordQuery.Regex.Standard

/-!
# ASCII letters in tests that ignore case

A test of a string that ignores case sees the lower-case forms of the string and of its argument
alone. So no operator tells apart two strings, or two arguments, that differ in nothing but the case
of ASCII letters.
-/

namespace RecordQuery

open Unicode

/-- The operators that look at the letters of a string, and can ignore their case. -/
def Operator.ofCase : List Operator :=
  [.equals, .notEquals, .startsWith, .endsWith, .contains, .like]

/-- What such an operator says of a string, from the forms in which it sees its argument and the
string. -/
def Operator.relates (op : Operator) (x s : List Char) : Bool :=
  match op with
  | .equals => s == x
  | .notEquals => s != x
  | .startsWith => x.isPrefixOf s
  | .endsWith => x.isSuffixOf s
  | _ => Text.occursIn x s

namespace Filter

/-- A string and an argument are seen through their forms only. -/
theorem answer_ofCase [Regex.Library] {op : Operator} (hop : op ∈ Operator.ofCase)
    {path : SharedPath} {r : Record} {s : String}
    (hr : path.path.resolve r = .ok (some (.string s))) (ignoreCase : Bool)
    (x : String) (rest : List Argument) :
    answer path op ignoreCase (.string x :: rest) r =
      .ok (op.relates (Test.caseForm ignoreCase x) (Test.caseForm ignoreCase s)) := by
  simp only [Operator.ofCase, List.mem_cons, List.not_mem_nil, or_false] at hop
  rcases hop with rfl | rfl | rfl | rfl | rfl | rfl <;>
    refine (answer_of_resolve (by decide) hr ignoreCase (.string x) rest).trans ?_
  · exact congrArg Except.ok (Bool.bne_false _)
  · exact congrArg Except.ok (Bool.bne_true _)
  all_goals rfl

/-- The case of ASCII letters, in a string or in the argument, makes no difference to an operator
that ignores case; it sees both in lower case. -/
theorem ascii_case_ignored [Regex.Library] (path : SharedPath) {r r' : Record}
    {s s' x x' : String}
    (hr : path.path.resolve r = .ok (some (.string s)))
    (hr' : path.path.resolve r' = .ok (some (.string s'))) (hs : SameButAsciiCase s s')
    (hx : SameButAsciiCase x x') (rest rest' : List Argument) :
    ∀ op ∈ Operator.ofCase,
      answer path op true (.string x :: rest) r = answer path op true (.string x' :: rest') r' ∧
        answer path op true (.string x :: rest) r =
          .ok (op.relates (lowercase x.toList) (lowercase s.toList)) := by
  intro op hop
  have hanswer := answer_ofCase hop hr true x rest
  have hanswer' := answer_ofCase hop hr' true x' rest'
  simp only [Test.caseForm, if_true] at hanswer hanswer'
  rw [hanswer, hanswer', hs.lowercase_eq, hx.lowercase_eq]
  exact ⟨rfl, rfl⟩

/-- A letter behind a sigma keeps it from being final, in either case. -/
theorem ascii_case_ignored_sigma :
    let path : SharedPath := ⟨0, "v", by decide⟩
    let record (s : String) : Record := ⟨⟨0, "T", ["v"]⟩, [.string s]⟩
    let compared (op : Operator) (x s : String) := answer path op true [.string x] (record s)
    (∀ s, path.path.resolve (record s) = .ok (some (.string s))) ∧
      SameButAsciiCase "ΑΣa" "ΑΣA" ∧ SameButAsciiCase "Σa" "ΣA" ∧
      (∀ op ∈ Operator.ofCase, compared op "Σa" "ΑΣA" = compared op "ΣA" "ΑΣa") ∧
      compared .endsWith "Σa" "ΑΣA" = .ok true := by
  intro path record compared
  have hresolve (s : String) : path.path.resolve (record s) = .ok (some (.string s)) := by cbv
  have hs : SameButAsciiCase "ΑΣa" "ΑΣA" := by decide +kernel
  have hx : SameButAsciiCase "Σa" "ΣA" := by decide +kernel
  have hcompared := ascii_case_ignored path (hresolve _) (hresolve _) hs.symm hx [] []
  refine ⟨hresolve, hs, hx, fun op hop => (hcompared op hop).1, ?_⟩
  exact (hcompared .endsWith (by decide)).2.trans (congrArg Except.ok (by decide +kernel))

end Filter

end RecordQuery
