import RecordQuery.Proofs.Filter.Coercion

/-!
# Expressions that are compiled again

Where case is ignored, the expression of a match is compiled again from its text, under no flag but
the one for case. Flags that the expression was made with and that its text does not tell are lost.
That makes no difference as long as the text is read as the same without them.
-/

namespace RecordQuery

namespace Regex

/-- The flags that an expression is made with: for letter case, for the edges of lines, for dots
that match the end of a line, and for white space between the parts. -/
def builderFlags (i m s x : Bool) : Flags :=
  { caseInsensitive := i, multiLine := m, dotMatchesNewLine := s, ignoreWhitespace := x }

namespace Manual

variable [Library] (doc : Manual) {i m s x : Bool} {source : String}

/-- Whether a text without flags tells what it does under those that do not concern case. -/
def TextSuffices (m s x : Bool) (source : String) : Prop :=
  doc.read (builderFlags true m s x) source = doc.read (builderFlags true false false false) source

/-- A text suffices if there is nothing in it that the flags are about. -/
theorem textSuffices_of_unmarked (hm : m = true → ∀ c ∈ source.toList, c ≠ '^' ∧ c ≠ '$')
    (hs : s = true → ∀ c ∈ source.toList, c ≠ '.')
    (hx : x = true → ∀ c ∈ source.toList, Unicode.isWhiteSpace c = false ∧ c ≠ '#') :
    doc.TextSuffices m s x source := by
  have hspace : doc.read (builderFlags true m s x) source =
      doc.read (builderFlags true m s false) source := by
    cases x with
    | false => rfl
    | true => exact doc.read_ignoreWhitespace (f := builderFlags true m s false) true (hx rfl)
  have hdot : doc.read (builderFlags true m s false) source =
      doc.read (builderFlags true m false false) source := by
    cases s with
    | false => rfl
    | true => exact doc.read_dotMatchesNewLine (f := builderFlags true m false false) true (hs rfl)
  have hline : doc.read (builderFlags true m false false) source =
      doc.read (builderFlags true false false false) source := by
    cases m with
    | false => rfl
    | true => exact doc.read_multiLine (f := builderFlags true false false false) true (hm rfl)
  exact hspace.trans (hdot.trans hline)

variable {doc}

theorem TextSuffices.exists_read (h : doc.TextSuffices m s x source) {r : Regex}
    (hr : compile (builderFlags i m s x) source = .ok r) :
    ∃ e, doc.read (builderFlags true m s x) source = .ok e ∧
      doc.read (builderFlags true false false false) source = .ok e := by
  obtain ⟨own, hown, -⟩ := doc.compiles_iff.mp ⟨r, hr⟩
  obtain ⟨e, he⟩ : ∃ e, doc.read (builderFlags true m s x) source = .ok e :=
    doc.read_of_agree (f := builderFlags i m s x) rfl rfl hown
  exact ⟨e, he, h.symm.trans he⟩

end Manual

end Regex

namespace Filter

open Regex

/-- Of an expression only the text counts where case is ignored. -/
theorem build_expression_eq [Regex.Library] (doc : Regex.Manual) (path : SharedPath) {f : Flags}
    {source : String} {r : Regex} (hr : Regex.compile f source = .ok r) :
    build path .matchesPattern true [.regex r] =
      match Regex.compile (builderFlags true false false false) source with
      | .ok e => .ok (leaf ⟨path, .matchesPattern, true, [.regex r], .matchesRegex e⟩)
      | .error cause => .error (.invalidRegex cause) := by
  rw [← doc.source_eq hr]
  exact build_match_eq rfl true

/-- Where case is ignored, an expression is what its text compiles to under the flag for case alone;
if the text suffices, this is the expression under its own flags and the one for case. -/
theorem match_of_expression_ignoring_case [Regex.Library] (doc : Regex.Manual) (path : SharedPath)
    (i m s x : Bool) (source : String) (r : Regex)
    (hr : Regex.compile (builderFlags i m s x) source = .ok r) :
    let own := Regex.compile (builderFlags true m s x) source
    let again := Regex.compile (builderFlags true false false false) source
    let built := build path .matchesPattern true [.regex r]
    (∀ e, again = .ok e → ∃ f, built = .ok f ∧ ∀ record text,
      path.path.resolve record = .ok (some (.string text)) →
        f.passes record = .ok (e.isMatch text)) ∧
    (∀ cause, again = .error cause → built = .error (.invalidRegex cause)) ∧
    (doc.TextSuffices m s x source →
      ∃ e, doc.read (builderFlags true m s x) source = .ok e ∧
        ((∃ f, built = .ok f) ↔ doc.Fits e) ∧ (i = true → ∃ f, built = .ok f) ∧
        ∀ f, built = .ok f → ∃ o, own = .ok o ∧ ∀ record text,
          path.path.resolve record = .ok (some (.string text)) →
            f.passes record = .ok (o.isMatch text) ∧ (o.isMatch text = true ↔
              ∃ j k, j ≤ k ∧ k ≤ text.toList.length ∧ doc.Matches e text.toList j k)) ∧
    ((m = true → ∀ c ∈ source.toList, c ≠ '^' ∧ c ≠ '$') →
      (s = true → ∀ c ∈ source.toList, c ≠ '.') →
        (x = true → ∀ c ∈ source.toList, Unicode.isWhiteSpace c = false ∧ c ≠ '#') →
          doc.TextSuffices m s x source) := by
  intro own again built
  have hbuilt : built = match again with
      | .ok e => .ok (leaf ⟨path, .matchesPattern, true, [.regex r], .matchesRegex e⟩)
      | .error cause => .error (.invalidRegex cause) := build_expression_eq doc path hr
  have hexists : (∃ f, built = .ok f) ↔ ∃ e, again = .ok e := by
    rw [hbuilt]
    cases again <;> simp
  refine ⟨fun e he => ?_, fun cause hcause => ?_, fun hsuffices => ?_,
    doc.textSuffices_of_unmarked⟩
  · rw [hbuilt, he]
    exact ⟨_, rfl, fun record text h => passes_matchesRegex h _⟩
  · rw [hbuilt, hcause]
  · obtain ⟨e, hown, hagain⟩ := hsuffices.exists_read hr
    have hfits : (∃ o, own = .ok o) ↔ doc.Fits e := Manual.compiles_iff_of_read hown
    have hbuilds : (∃ f, built = .ok f) ↔ doc.Fits e :=
      hexists.trans (Manual.compiles_iff_of_read hagain)
    refine ⟨e, hown, hbuilds, ?_, fun f hf => ?_⟩
    · rintro rfl
      exact hbuilds.mpr (hfits.mp ⟨r, hr⟩)
    · obtain ⟨o, ho⟩ := hfits.mpr (hbuilds.mp ⟨f, hf⟩)
      obtain ⟨a, ha⟩ := hexists.mp ⟨f, hf⟩
      rw [hbuilt, ha] at hf
      cases hf
      refine ⟨o, ho, fun record text h => ?_⟩
      -- Both are found where what they are read as has a match, and it is the same.
      have hfound := doc.isMatch_iff ho hown text
      have hsame : a.isMatch text = o.isMatch text :=
        Bool.eq_iff_iff.mpr ((doc.isMatch_iff ha hagain text).trans hfound.symm)
      rw [passes_matchesRegex h, hsame]
      exact ⟨rfl, hfound⟩

set_option maxRecDepth 2000 in
/-- All flags are on but the one for case, and the text heeds none of them: it sets the one for dots
itself. -/
theorem match_of_expression_ignoring_case_sufficient :
    let path : SharedPath := ⟨0, "v", by decide⟩
    let record : Record := ⟨⟨0, "T", ["v"]⟩, [.string "A\nB"]⟩
    Standard.manual.TextSuffices true true true "(?s:a.)b" ∧
      ∃ r f, Regex.compile (builderFlags false true true true) "(?s:a.)b" = .ok r ∧
        r.isMatch "A\nB" = false ∧ build path .matchesPattern true [.regex r] = .ok f ∧
          f.passes record = .ok true := by
  intro path record
  have hsuffices : Standard.manual.TextSuffices true true true "(?s:a.)b" := rfl
  obtain ⟨r, hr, hplain⟩ : ∃ r, Regex.compile (builderFlags false true true true) "(?s:a.)b" =
      .ok r ∧ r.isMatch "A\nB" = false := ⟨_, rfl, rfl⟩
  obtain ⟨own, hown, hmatch⟩ : ∃ own, Regex.compile (builderFlags true true true true) "(?s:a.)b" =
      .ok own ∧ own.isMatch "A\nB" = true := ⟨_, rfl, rfl⟩
  obtain ⟨hbuilds, -, hkept, -⟩ :=
    match_of_expression_ignoring_case Standard.manual path false true true true _ r hr
  obtain ⟨again, hagain⟩ : ∃ again,
      Regex.compile (builderFlags true false false false) "(?s:a.)b" = .ok again := ⟨_, rfl⟩
  obtain ⟨f, hf, -⟩ := hbuilds again hagain
  obtain ⟨e, -, -, -, hpasses⟩ := hkept hsuffices
  obtain ⟨o, ho, htext⟩ := hpasses f hf
  cases hown.symm.trans ho
  have hresolve : path.path.resolve record = .ok (some (.string "A\nB")) := by cbv
  refine ⟨hsuffices, r, f, hr, hplain, hf, ?_⟩
  rw [(htext record "A\nB" hresolve).1, hmatch]

set_option maxRecDepth 2000 in
/-- A dot that was to match the end of a line does not match it any more, and a comment that was to
be skipped is read as a pattern, and is none. -/
theorem match_of_expression_loses_flags :
    let path : SharedPath := ⟨0, "v", by decide⟩
    let record : Record := ⟨⟨0, "T", ["v"]⟩, [.string "a\nb"]⟩
    (∃ r own f, Regex.compile (builderFlags false false true false) "a.b" = .ok r ∧
      Regex.compile (builderFlags true false true false) "a.b" = .ok own ∧
        own.isMatch "a\nb" = true ∧ build path .matchesPattern true [.regex r] = .ok f ∧
          f.passes record = .ok false) ∧
    ∃ r own, Regex.compile (builderFlags false false false true) "a #(" = .ok r ∧
      Regex.compile (builderFlags true false false true) "a #(" = .ok own ∧
        build path .matchesPattern true [.regex r] = .error (.invalidRegex .groupUnclosed) := by
  intro path record
  constructor
  · obtain ⟨r, hr⟩ : ∃ r, Regex.compile (builderFlags false false true false) "a.b" = .ok r :=
      ⟨_, rfl⟩
    obtain ⟨own, hown, hmatch⟩ : ∃ own, Regex.compile (builderFlags true false true false) "a.b" =
        .ok own ∧ own.isMatch "a\nb" = true := ⟨_, rfl, rfl⟩
    obtain ⟨e, he, hlost⟩ : ∃ e, Regex.compile (builderFlags true false false false) "a.b" =
        .ok e ∧ e.isMatch "a\nb" = false := ⟨_, rfl, rfl⟩
    have hresolve : path.path.resolve record = .ok (some (.string "a\nb")) := by cbv
    have hbuild : build path .matchesPattern true [.regex r] =
        .ok (leaf ⟨path, .matchesPattern, true, [.regex r], .matchesRegex e⟩) := by
      rw [build_expression_eq Standard.manual path hr, he]
    refine ⟨r, own, _, hr, hown, hmatch, hbuild, ?_⟩
    rw [passes_matchesRegex hresolve, hlost]
  · obtain ⟨r, hr⟩ : ∃ r, Regex.compile (builderFlags false false false true) "a #(" = .ok r :=
      ⟨_, rfl⟩
    have he : Regex.compile (builderFlags true false false false) "a #(" = .error .groupUnclosed :=
      rfl
    exact ⟨r, _, hr, rfl, by rw [build_expression_eq Standard.manual path hr, he]⟩

end Filter

end RecordQuery
