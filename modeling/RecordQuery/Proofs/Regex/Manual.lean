import RecordQuery.Regex.Basic
import RecordQuery.Unicode.WhiteSpace

/-!
# What is documented of a library

The manual of a library of regular expressions tells how texts are read as expressions and where
expressions match. What is said of conditions rests on these rules alone, whatever library there is.
-/

namespace RecordQuery.Regex

/-- A text between the anchors that a match puts around it. -/
def anchored (p : String) : String := "^(?:" ++ p ++ ")$"

/-- What the manual of a library says. Reading a text applies the flags; what has been read may
still be beyond the limits on nesting and size. Matches are told between two places of a text. -/
structure Manual [Library] where
  Expr : Type
  read : Flags → String → Except SyntaxError Expr
  Fits : Expr → Prop
  Matches : Expr → List Char → Nat → Nat → Prop
  start : Expr
  stop : Expr
  group : Expr → Expr
  seq : Expr → Expr → Expr
  /-- Expressions tell the text that they were made of. -/
  source_eq {f : Flags} {p : String} {r : Regex} : compile f p = .ok r → r.source = p
  /-- A text compiles if it can be read and what it says is within the limits. -/
  compiles_iff {f : Flags} {p : String} :
    (∃ r, compile f p = .ok r) ↔ ∃ e, read f p = .ok e ∧ Fits e
  /-- A search looks for a match anywhere in the text. -/
  isMatch_iff {f : Flags} {p : String} {r : Regex} {e : Expr} :
    compile f p = .ok r → read f p = .ok e → ∀ text, r.isMatch text = true ↔
      ∃ i j, i ≤ j ∧ j ≤ text.toList.length ∧ Matches e text.toList i j
  /-- `^` is the beginning of the text. -/
  matches_start {text : List Char} {i j : Nat} : Matches start text i j ↔ i = 0 ∧ j = 0
  /-- `$` is the end of the text. -/
  matches_stop {text : List Char} {i j : Nat} :
    Matches stop text i j ↔ i = text.length ∧ j = text.length
  /-- `(?:x)` is `x`. -/
  matches_group {e : Expr} {text : List Char} {i j : Nat} :
    Matches (group e) text i j ↔ Matches e text i j
  /-- `xy` is `x` followed by `y`. -/
  matches_seq {a b : Expr} {text : List Char} {i j : Nat} :
    Matches (seq a b) text i j ↔ ∃ k, Matches a text i k ∧ Matches b text k j
  /-- A parenthesis that cannot follow a pattern by itself, for want of a group to close, closes the
  group around the pattern. -/
  read_anchored {f : Flags} {p : String} {e : Expr} : f.multiLine = false →
    f.ignoreWhitespace = false → read f p = .ok e → (∀ e', read f (p ++ ")$") ≠ .ok e') →
      read f (anchored p) = .ok (seq start (seq (group e) stop))
  /-- A parenthesis that can follow a pattern by itself stands in a comment, and a group that it was
  to close stays open. -/
  read_anchored_comment {f : Flags} {p : String} {e e' : Expr} : f.multiLine = false →
    f.ignoreWhitespace = false → read f p = .ok e → read f (p ++ ")$") = .ok e' →
      ∃ cause, read f (anchored p) = .error cause
  /-- What is wrong with a text is wrong with it inside a group, but for a parenthesis that closes
  nothing. -/
  read_anchored_error {f : Flags} {p : String} {cause : SyntaxError} : f.multiLine = false →
    f.ignoreWhitespace = false → read f p = .error cause → cause ≠ .groupUnopened →
      ∃ cause', read f (anchored p) = .error cause'
  /-- Which texts can be read depends on the flags for white space and for Unicode alone. -/
  read_of_agree {f f' : Flags} {p : String} {e : Expr} : f'.ignoreWhitespace = f.ignoreWhitespace →
    f'.unicode = f.unicode → read f p = .ok e → ∃ e', read f' p = .ok e'
  /-- The flag for lines is about `^` and `$`. -/
  read_multiLine {f : Flags} {p : String} (on : Bool) : (∀ c ∈ p.toList, c ≠ '^' ∧ c ≠ '$') →
    read (f.set on .multiLine) p = read f p
  /-- The flag for the ends of lines is about the dot. -/
  read_dotMatchesNewLine {f : Flags} {p : String} (on : Bool) : (∀ c ∈ p.toList, c ≠ '.') →
    read (f.set on .dotMatchesNewLine) p = read f p
  /-- The flag for white space is about white space and comments. -/
  read_ignoreWhitespace {f : Flags} {p : String} (on : Bool) :
    (∀ c ∈ p.toList, Unicode.isWhiteSpace c = false ∧ c ≠ '#') →
      read (f.set on .ignoreWhitespace) p = read f p
  /-- A letter is found as its other case where case is ignored, and nowhere else. -/
  isMatch_letter (ignoreCase : Bool) :
    ∃ r, compile (({} : Flags).set ignoreCase .caseInsensitive) (anchored "a") = .ok r ∧
      r.isMatch "A" = ignoreCase

namespace Manual

variable [Library] (doc : Manual) {f : Flags} {p : String} {r : Regex} {e : doc.Expr}

/-- An expression between the ends of a text. -/
def whole (e : doc.Expr) : doc.Expr := doc.seq doc.start (doc.seq (doc.group e) doc.stop)

/-- Whether the end of a text takes a parenthesis in that closes none of its groups. -/
def EndsInComment (f : Flags) (p : String) : Prop := ∃ e, doc.read f (p ++ ")$") = .ok e

/-- Whether anchors neither push an expression over a limit nor bring it back below one. -/
def LimitsAgree (f : Flags) (p : String) : Prop :=
  ∀ e, doc.read f p = .ok e → (doc.Fits e ↔ doc.Fits (doc.whole e))

variable {doc}

theorem matches_whole_iff {text : List Char} {i j : Nat} : doc.Matches (doc.whole e) text i j ↔
    i = 0 ∧ j = text.length ∧ doc.Matches e text 0 text.length := by
  simp only [whole, doc.matches_seq, doc.matches_start, doc.matches_group, doc.matches_stop]
  constructor
  · rintro ⟨k, ⟨rfl, rfl⟩, m, hmatch, rfl, rfl⟩
    exact ⟨rfl, rfl, hmatch⟩
  · rintro ⟨rfl, rfl, hmatch⟩
    exact ⟨0, ⟨rfl, rfl⟩, _, hmatch, rfl, rfl⟩

theorem compiles_iff_of_read (he : doc.read f p = .ok e) :
    (∃ r, compile f p = .ok r) ↔ doc.Fits e := by
  rw [doc.compiles_iff, he]
  constructor
  · rintro ⟨_, ⟨⟩, hfits⟩
    exact hfits
  · intro hfits
    exact ⟨e, rfl, hfits⟩

theorem compile_error_of_read {cause : SyntaxError} (h : doc.read f p = .error cause) :
    ∃ cause', compile f p = .error cause' := by
  cases hcompile : compile f p with
  | error cause' => exact ⟨cause', rfl⟩
  | ok r =>
    obtain ⟨e, he, -⟩ := doc.compiles_iff.mp ⟨r, hcompile⟩
    cases he.symm.trans h

section Anchored

variable (hline : f.multiLine = false) (hspace : f.ignoreWhitespace = false)
include hline hspace

theorem compiles_anchored_iff (he : doc.read f p = .ok e) :
    (∃ r, compile f (anchored p) = .ok r) ↔ ¬doc.EndsInComment f p ∧ doc.Fits (doc.whole e) := by
  by_cases hcomment : doc.EndsInComment f p
  · obtain ⟨e', he'⟩ := hcomment
    obtain ⟨cause, hcause⟩ := doc.read_anchored_comment hline hspace he he'
    obtain ⟨cause', hcompile⟩ := compile_error_of_read hcause
    simp [hcompile, show doc.EndsInComment f p from ⟨e', he'⟩]
  · have hwhole := doc.read_anchored hline hspace he (not_exists.mp hcomment)
    rw [compiles_iff_of_read hwhole]
    exact (and_iff_right hcomment).symm

/-- To search for the anchored text is to match the whole string. -/
theorem isMatch_anchored_iff (he : doc.read f p = .ok e) (hr : compile f (anchored p) = .ok r)
    (text : String) :
    r.isMatch text = true ↔ doc.Matches e text.toList 0 text.toList.length := by
  obtain ⟨hcomment, -⟩ := (compiles_anchored_iff hline hspace he).mp ⟨r, hr⟩
  have hwhole := doc.read_anchored hline hspace he (not_exists.mp hcomment)
  rw [doc.isMatch_iff hr hwhole]
  change (∃ i j, i ≤ j ∧ j ≤ _ ∧ doc.Matches (doc.whole e) text.toList i j) ↔ _
  simp only [matches_whole_iff]
  constructor
  · rintro ⟨_, _, -, -, rfl, rfl, hmatch⟩
    exact hmatch
  · intro hmatch
    exact ⟨0, _, Nat.zero_le _, Nat.le_refl _, rfl, rfl, hmatch⟩

end Anchored

end Manual

end RecordQuery.Regex
