import RecordQuery.Proofs.Filter.Groups
import RecordQuery.Proofs.Regex.Standard

/-!
# Texts as patterns for whole strings

The text of an argument of a match is put between anchors as it stands. Where the text is a pattern
that does not end in a comment, the anchored text is one too, within the limits on patterns, and
finds exactly the strings that the pattern matches from end to end. A comment at the end takes the
closing in. A text that is no pattern, since it closes a group that it does not open, can be one
between the anchors.
-/

namespace RecordQuery.Filter

open Regex

/-- The flags under which the pattern of a match is read. -/
def matchFlags (ignoreCase : Bool) : Flags := Flags.set {} ignoreCase .caseInsensitive

variable {path : SharedPath} {ignoreCase : Bool} {p : String} {f : Filter}

theorem passes_matchesRegex {e : Regex} {record : Record} {text : String}
    (h : path.path.resolve record = .ok (some (.string text))) (args : List Argument) :
    (leaf ⟨path, .matchesPattern, ignoreCase, args, .matchesRegex e⟩).passes record =
      .ok (e.isMatch text) := by
  rw [passes_leaf, h]
  simp only [bind, Except.bind, Test.run, Option.any_some, Value.toString?]

section

variable [Regex.Library]

theorem build_match_eq {a : Argument} (ha : a.isNull = false) (ignoreCase : Bool) :
    build path .matchesPattern ignoreCase [a] =
      match a.toRegex ignoreCase with
      | .ok e => .ok (leaf ⟨path, .matchesPattern, ignoreCase, [a], .matchesRegex e⟩)
      | .error cause => .error (.invalidRegex cause) := by
  have hbuild : build path .matchesPattern ignoreCase [a] = (Test.ofMatch ignoreCase a).map
      fun test => leaf ⟨path, .matchesPattern, ignoreCase, [a], test⟩ := rfl
  rw [hbuild, Test.ofMatch, if_neg (by rw [ha]; decide)]
  cases a.toRegex ignoreCase <;> rfl

theorem build_text_eq (path : SharedPath) (ignoreCase : Bool) (p : String) :
    build path .matchesPattern ignoreCase [.string p] =
      match Regex.compile (matchFlags ignoreCase) (anchored p) with
      | .ok e => .ok (leaf ⟨path, .matchesPattern, ignoreCase, [.string p], .matchesRegex e⟩)
      | .error cause => .error (.invalidRegex cause) :=
  build_match_eq rfl ignoreCase

theorem build_text_eq_ok_iff :
    build path .matchesPattern ignoreCase [.string p] = .ok f ↔
      ∃ x, Regex.compile (matchFlags ignoreCase) (anchored p) = .ok x ∧
        f = leaf ⟨path, .matchesPattern, ignoreCase, [.string p], .matchesRegex x⟩ := by
  rw [build_text_eq]
  cases Regex.compile (matchFlags ignoreCase) (anchored p) with
  | error e => simp
  | ok x => simp [eq_comm]

theorem exists_build_text_iff : (∃ f, build path .matchesPattern ignoreCase [.string p] = .ok f) ↔
    ∃ x, Regex.compile (matchFlags ignoreCase) (anchored p) = .ok x := by
  simp only [build_text_eq_ok_iff]
  exact ⟨fun ⟨_, x, hx, _⟩ => ⟨x, hx⟩, fun ⟨x, hx⟩ => ⟨_, x, hx, rfl⟩⟩

end

/-- A filter from a text that is a pattern passes the strings that this matches from end to end. -/
theorem match_of_text_is_whole [Regex.Library] (doc : Regex.Manual) (path : SharedPath)
    (ignoreCase : Bool) (p : String) :
    let flags := matchFlags ignoreCase
    let built := build path .matchesPattern ignoreCase [.string p]
    (∀ e, doc.read flags p = .ok e →
      ((∃ f, built = .ok f) ↔ ¬doc.EndsInComment flags p ∧ doc.Fits (doc.whole e)) ∧
      ∀ f, built = .ok f → ∀ r s, path.path.resolve r = .ok (some (.string s)) →
        ∃ b, f.passes r = .ok b ∧ (b = true ↔ doc.Matches e s.toList 0 s.toList.length)) ∧
    (∀ cause, doc.read flags p = .error cause → cause ≠ .groupUnopened →
      ∃ cause', built = .error (.invalidRegex cause')) ∧
    (doc.read flags p ≠ .error .groupUnopened → ¬doc.EndsInComment flags p →
      doc.LimitsAgree flags p →
        ((∃ f, built = .ok f) ↔ ∃ own, Regex.compile flags p = .ok own)) := by
  intro flags built
  -- Neither flag that could change the anchors is on.
  have hline : flags.multiLine = false := rfl
  have hspace : flags.ignoreWhitespace = false := rfl
  have hbuilds {e : doc.Expr} (he : doc.read flags p = .ok e) :
      (∃ f, built = .ok f) ↔ ¬doc.EndsInComment flags p ∧ doc.Fits (doc.whole e) :=
    exists_build_text_iff.trans (Manual.compiles_anchored_iff hline hspace he)
  have hrefused {cause : SyntaxError} (hcause : doc.read flags p = .error cause)
      (hopened : cause ≠ .groupUnopened) : ∃ cause', built = .error (.invalidRegex cause') := by
    obtain ⟨c, hc⟩ := doc.read_anchored_error hline hspace hcause hopened
    obtain ⟨cause', hcompile⟩ := Manual.compile_error_of_read hc
    have hbuilt := build_text_eq path ignoreCase p
    rw [hcompile] at hbuilt
    exact ⟨cause', hbuilt⟩
  refine ⟨fun e he => ⟨hbuilds he, fun f hf r s hs => ?_⟩, fun _ => hrefused,
    fun hopened hcomment hagree => ?_⟩
  · obtain ⟨x, hx, rfl⟩ := build_text_eq_ok_iff.mp hf
    exact ⟨x.isMatch s, passes_matchesRegex hs _, Manual.isMatch_anchored_iff hline hspace he hx s⟩
  · cases hread : doc.read flags p with
    | ok e =>
      rw [hbuilds hread, and_iff_right hcomment, ← hagree e hread]
      exact (Manual.compiles_iff_of_read hread).symm
    | error cause =>
      obtain ⟨c, hc⟩ := hrefused hread fun h => hopened (h ▸ hread)
      obtain ⟨c', hc'⟩ := Manual.compile_error_of_read hread
      simp [hc, hc']

/-- A choice whose first half is the beginning of the second passes a string that the second half
is the whole of. -/
theorem match_of_text_is_whole_choice :
    let path : SharedPath := ⟨0, "v", by decide⟩
    let r : Record := ⟨⟨0, "T", ["v"]⟩, [.string "ab"]⟩
    let doc := Standard.manual
    ∃ e f, doc.read (matchFlags false) "a|ab" = .ok e ∧ doc.Matches e ['a', 'b'] 0 2 ∧
      build path .matchesPattern false [.string "a|ab"] = .ok f ∧ f.passes r = .ok true := by
  intro path r doc
  let e : Tree × Pattern :=
    (.alt (.literal 'a' false) (.seq (.literal 'a' false) (.literal 'b' false)),
      .alt (.chars [(97, 97)]) (.seq (.chars [(97, 97)]) (.chars [(98, 98)])))
  have he : doc.read (matchFlags false) "a|ab" = .ok e := rfl
  have hmatches : doc.Matches e ['a', 'b'] 0 2 := .inr ⟨1, ⟨rfl, rfl⟩, rfl, rfl⟩
  have hcomment : ¬doc.EndsInComment (matchFlags false) "a|ab" := fun ⟨_, h⟩ => nomatch h
  have hfits : doc.Fits (doc.whole e) := ⟨by decide, by decide +kernel⟩
  have hs : path.path.resolve r = .ok (some (.string "ab")) := by cbv
  obtain ⟨hbuilds, hpasses⟩ := (match_of_text_is_whole doc path false "a|ab").1 e he
  obtain ⟨f, hf⟩ := hbuilds.mpr ⟨hcomment, hfits⟩
  obtain ⟨b, hb, hwhole⟩ := hpasses f hf r "ab" hs
  refine ⟨e, f, he, hmatches, hf, ?_⟩
  rw [hb, hwhole.mpr hmatches]

/-- Two halves of a choice that close and open the group between the anchors make a filter, and a
comment behind a pattern makes none. -/
theorem match_of_text_not_whole :
    let path : SharedPath := ⟨0, "v", by decide⟩
    let r : Record := ⟨⟨0, "T", ["v"]⟩, [.string "axx"]⟩
    Regex.compile (matchFlags false) "a)|(b" = .error .groupUnopened ∧
      (∃ f, build path .matchesPattern false [.string "a)|(b"] = .ok f ∧ f.passes r = .ok true) ∧
      (∃ own, Regex.compile (matchFlags false) "(?x)a # c" = .ok own) ∧
      build path .matchesPattern false [.string "(?x)a # c"] =
        .error (.invalidRegex .groupUnclosed) :=
  ⟨rfl, ⟨_, rfl, rfl⟩, ⟨_, rfl⟩, rfl⟩

end RecordQuery.Filter
