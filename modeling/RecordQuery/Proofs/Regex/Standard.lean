import RecordQuery.Proofs.Regex.Flags
import RecordQuery.Proofs.Regex.Flattening
import RecordQuery.Proofs.Regex.Layout
import RecordQuery.Proofs.Regex.Manual
import RecordQuery.Regex.Standard

/-!
# The manual of the standard library

What the manual of a library of regular expressions is to say holds of the standard one: a text is
read as a tree and the pattern that the flags make of it, and the matches are those of the pattern.
-/

namespace RecordQuery.Regex

/-! ## Anchors -/

/-- Flags set in a group do not reach the anchors around it. -/
theorem Tree.pattern_anchored {f : Flags} (hf : f.multiLine = false) (t : Tree) :
    t.anchored.pattern f = (t.pattern f).map fun q =>
      .seq (.look .textStart) (.seq (.group false q) (.look .textEnd)) := by
  have hstart : (assertion .lineStart).pattern f = .ok (.look .textStart) := by
    simp [pattern, compile, Flags.look, hf, Except.map]
  have hstop : (assertion .lineEnd).pattern f = .ok (.look .textEnd) := by
    simp [pattern, compile, Flags.look, hf, Except.map]
  have hchange : f.change [] = f := rfl
  simp only [anchored, pattern_seq, pattern_group, hstart, hchange, after, hstop]
  cases t.pattern f <;> rfl

section Anchors

variable {text : List Char} {i j : Nat}

theorem Pattern.matches_textStart_iff :
    (look .textStart).Matches text i j ↔ i = 0 ∧ j = 0 := by
  simp only [Matches, Look.holds]
  constructor
  · rintro ⟨rfl, hi, hbefore⟩
    cases i with
    | zero => exact ⟨rfl, rfl⟩
    | succ i =>
      have hlong : text.length ≤ i := by simpa [charBefore] using hbefore
      omega
  · rintro ⟨rfl, rfl⟩
    exact ⟨rfl, Nat.zero_le _, rfl⟩

theorem Pattern.matches_textEnd_iff :
    (look .textEnd).Matches text i j ↔ i = text.length ∧ j = text.length := by
  simp only [Matches, Look.holds, Option.isNone_iff_eq_none, List.getElem?_eq_none_iff]
  omega

end Anchors

namespace Standard

/-! ## Reading and compiling -/

/-- The tree that a text reads as, and the pattern that flags make of it. -/
def read (f : Flags) (p : String) : Except SyntaxError (Tree × Pattern) :=
  Tree.parse f.ignoreWhitespace p >>= fun t => (t.pattern f).map (t, ·)

/-- Whether what has been read is neither too deep nor too large. -/
def Fits (e : Tree × Pattern) : Prop := e.1.depth none ≤ nestLimit ∧ e.2.outline.fits = true

variable {f f' : Flags} {p : String} {t : Tree} {q : Pattern} {r : Regex}

theorem read_eq_ok_iff {e : Tree × Pattern} :
    read f p = .ok e ↔ Tree.parse f.ignoreWhitespace p = .ok e.1 ∧ e.1.pattern f = .ok e.2 := by
  constructor
  · intro h
    obtain ⟨t, ht, h⟩ := exists_of_bind_ok h
    obtain ⟨q, hq, rfl⟩ := map_eq_ok_iff.mp h
    exact ⟨ht, hq⟩
  · rintro ⟨ht, hq⟩
    rw [read, ht]
    exact map_eq_ok_iff.mpr ⟨e.2, hq, rfl⟩

theorem compile_eq_ok_iff : compile f p = .ok r ↔
    ∃ e, read f p = .ok e ∧ Fits e ∧ r = ⟨p, fun text => e.2.flatten.occursIn text.toList⟩ := by
  have hcompile : compile f p = Tree.parse f.ignoreWhitespace p >>= fun t =>
      if nestLimit < t.depth none then .error .nestingTooDeep
      else t.pattern f >>= fun q =>
        if q.outline.fits then .ok ⟨p, fun text => q.flatten.occursIn text.toList⟩
        else .error .machineTooLarge := by
    unfold compile
    refine bind_congr fun t => ?_
    rw [Tree.compile_eq_pattern]
    split_ifs
    · rfl
    · cases t.pattern f with
      | error e => rfl
      | ok q =>
        simp only [bind, Except.bind, Except.map]
        cases q.outline.fits <;> rfl
  rw [hcompile]
  constructor
  · intro h
    obtain ⟨t, ht, h⟩ := exists_of_bind_ok h
    split_ifs at h with hdepth
    obtain ⟨q, hq, h⟩ := exists_of_bind_ok h
    split_ifs at h with hfits
    cases h
    exact ⟨(t, q), read_eq_ok_iff.mpr ⟨ht, hq⟩, ⟨Nat.le_of_not_lt hdepth, hfits⟩, rfl⟩
  · rintro ⟨⟨t, q⟩, hread, ⟨hdepth, hfits⟩, rfl⟩
    obtain ⟨ht, hq⟩ := read_eq_ok_iff.mp hread
    simp only [ht, bind, Except.bind, if_neg (Nat.not_lt.mpr hdepth), hq, if_pos hfits]

theorem ordered_of_read {e : Tree × Pattern} (h : read f p = .ok e) : e.2.Ordered := by
  obtain ⟨ht, hq⟩ := read_eq_ok_iff.mp h
  obtain ⟨⟨q, f'⟩, hcompile, rfl⟩ := map_eq_ok_iff.mp hq
  exact (parse_ordered ht).compile hcompile

/-! ## Rules -/

theorem isMatch_iff {e : Tree × Pattern} (hr : compile f p = .ok r) (he : read f p = .ok e)
    (text : String) : r.isMatch text = true ↔
      ∃ i j, i ≤ j ∧ j ≤ text.toList.length ∧ e.2.Matches text.toList i j := by
  obtain ⟨e', he', -, rfl⟩ := compile_eq_ok_iff.mp hr
  cases he.symm.trans he'
  refine Pattern.occursIn_iff.trans ?_
  simp only [Pattern.matches_flatten_iff (ordered_of_read he)]
  refine exists_congr fun i => exists_congr fun j => ?_
  constructor
  · rintro ⟨hi, h⟩
    have := h.le
    exact ⟨h.le.1, by omega, h⟩
  · rintro ⟨hij, hj, h⟩
    exact ⟨hij.trans hj, h⟩

section

variable (hline : f.multiLine = false) (hspace : f.ignoreWhitespace = false)
include hspace

theorem read_of_parse_error {s : String} {cause : SyntaxError}
    (h : Tree.parse false s = .error cause) : read f s = .error cause := by
  rw [read, hspace, h]
  rfl

theorem parse_of_read {e : Tree × Pattern} (h : read f p = .ok e) :
    Tree.parse false p = .ok e.1 := hspace ▸ (read_eq_ok_iff.mp h).1

include hline

theorem read_anchored {e : Tree × Pattern} (h : read f p = .ok e)
    (hclosed : ∀ e', read f (p ++ ")$") ≠ .ok e') :
    read f (anchored p) = .ok (e.1.anchored,
      .seq (.look .textStart) (.seq (.group false e.2) (.look .textEnd))) := by
  obtain ⟨ht, hq⟩ := read_eq_ok_iff.mp h
  rw [hspace] at ht
  rcases parse_anchored p with hopened | ⟨⟨cause, herror⟩, -⟩ | ⟨t, htree, ⟨hsame, -⟩ | ⟨-, hread⟩⟩
  · cases ht.symm.trans hopened
  · cases ht.symm.trans herror
  · rw [read, hspace, hsame, ← htree, ← hspace] at hclosed
    exact absurd h (hclosed e)
  · cases ht.symm.trans htree
    refine read_eq_ok_iff.mpr ⟨by rw [hspace]; exact hread, ?_⟩
    rw [Tree.pattern_anchored hline, hq]
    rfl

theorem read_anchored_error {cause : SyntaxError} (h : read f p = .error cause)
    (hopened : cause ≠ .groupUnopened) : ∃ cause', read f (anchored p) = .error cause' := by
  rcases parse_anchored p with hparse | ⟨-, cause', herror⟩ | ⟨t, htree, hread⟩
  · rw [read_of_parse_error hspace hparse] at h
    cases h
    exact absurd rfl hopened
  · exact ⟨cause', read_of_parse_error hspace herror⟩
  · rcases hread with ⟨-, cause', herror⟩ | ⟨-, hread⟩
    · exact ⟨cause', read_of_parse_error hspace herror⟩
    · have hpattern : t.pattern f = .error cause := by
        rw [read, hspace, htree] at h
        exact map_eq_error_iff.mp h
      refine ⟨cause, ?_⟩
      rw [read, hspace]
      change (Tree.parse false ("^(?:" ++ p ++ ")$") >>= _) = _
      rw [hread]
      change (t.anchored.pattern f).map _ = _
      rw [Tree.pattern_anchored hline, hpattern]
      rfl

end

theorem read_anchored_comment {e e' : Tree × Pattern} (hspace : f.ignoreWhitespace = false)
    (h : read f p = .ok e) (hclosed : read f (p ++ ")$") = .ok e') :
    ∃ cause, read f (anchored p) = .error cause := by
  have ht := parse_of_read hspace h
  rcases parse_anchored p with hopened | ⟨⟨cause, herror⟩, -⟩ |
    ⟨t, htree, ⟨-, cause, hread⟩ | ⟨hunopened, -⟩⟩
  · cases ht.symm.trans hopened
  · cases ht.symm.trans herror
  · exact ⟨cause, read_of_parse_error hspace hread⟩
  · cases (parse_of_read hspace hclosed).symm.trans hunopened

theorem read_of_agree {e : Tree × Pattern} (hspace : f'.ignoreWhitespace = f.ignoreWhitespace)
    (hunicode : f'.unicode = f.unicode) (h : read f p = .ok e) : ∃ e', read f' p = .ok e' := by
  obtain ⟨ht, hq⟩ := read_eq_ok_iff.mp h
  obtain ⟨q', hq'⟩ := Tree.exists_pattern_of_unicode_eq hunicode hq
  exact ⟨(e.1, q'), read_eq_ok_iff.mpr ⟨hspace ▸ ht, hq'⟩⟩

theorem read_set {c : Flag} (hc : c.IsOfLines) (on : Bool) (h : ∀ d ∈ p.toList, d ∉ c.marks) :
    read (f.set on c) p = read f p := by
  have hspace : (f.set on c).ignoreWhitespace = f.ignoreWhitespace := by
    rcases hc with rfl | rfl <;> rfl
  rw [read, read, hspace]
  refine bind_congr_of_ok fun t ht =>
    congrArg (Except.map (t, ·)) (Tree.pattern_congr fun d hd => ?_)
  have hne : c ≠ d := by
    rintro rfl
    rw [not_heeds_of_marks hc h ht] at hd
    cases hd
  rw [Flags.get_set, if_neg hne]

theorem read_ignoreWhitespace (on : Bool) (h : Plain p.toList) :
    read (f.set on .ignoreWhitespace) p = read f p := by
  rw [read, read, parse_of_plain h, parse_of_plain h f.ignoreWhitespace]
  refine bind_congr fun t => congrArg (Except.map (t, ·)) (Tree.pattern_congr fun d hd => ?_)
  rw [Flags.get_set, if_neg]
  rintro rfl
  rw [Tree.heeds_ignoreWhitespace] at hd
  cases hd

theorem isMatch_letter (ignoreCase : Bool) :
    ∃ r, compile (({} : Flags).set ignoreCase .caseInsensitive) (anchored "a") = .ok r ∧
      r.isMatch "A" = ignoreCase := by
  have hfound : (compile (({} : Flags).set ignoreCase .caseInsensitive) (anchored "a")).map
      (Regex.isMatch · "A") = .ok ignoreCase := by
    cases ignoreCase <;> decide +kernel
  exact map_eq_ok_iff.mp hfound

/-- The manual of the standard library. -/
def manual : Manual where
  Expr := Tree × Pattern
  read := read
  Fits := Fits
  Matches e text := e.2.Matches text
  start := (.assertion .lineStart, .look .textStart)
  stop := (.assertion .lineEnd, .look .textEnd)
  group e := (.group false [] e.1, .group false e.2)
  seq a b := (.seq a.1 b.1, .seq a.2 b.2)
  source_eq h := by
    obtain ⟨e, -, -, rfl⟩ := compile_eq_ok_iff.mp h
    rfl
  compiles_iff := by
    refine ⟨fun ⟨r, hr⟩ => ?_, fun ⟨e, he, hfits⟩ => ⟨_, compile_eq_ok_iff.mpr ⟨e, he, hfits, rfl⟩⟩⟩
    obtain ⟨e, he, hfits, -⟩ := compile_eq_ok_iff.mp hr
    exact ⟨e, he, hfits⟩
  isMatch_iff := isMatch_iff
  matches_start := Pattern.matches_textStart_iff
  matches_stop := Pattern.matches_textEnd_iff
  matches_group := Iff.rfl
  matches_seq := Iff.rfl
  read_anchored hline hspace h hclosed := read_anchored hline hspace h hclosed
  read_anchored_comment _ := read_anchored_comment
  read_anchored_error hline hspace := read_anchored_error hline hspace
  read_of_agree := read_of_agree
  read_multiLine on h := read_set (.inl rfl) on fun c hc => by simpa [Flag.marks] using h c hc
  read_dotMatchesNewLine on h :=
    read_set (.inr rfl) on fun c hc => by simpa [Flag.marks] using h c hc
  read_ignoreWhitespace := read_ignoreWhitespace
  isMatch_letter := isMatch_letter

end Standard

end RecordQuery.Regex
