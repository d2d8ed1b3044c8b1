import RecordQuery.Proofs.Regex.Bytes
import RecordQuery.Proofs.Regex.Reading

/-!
# Flags that a pattern heeds

A part of a pattern heeds a flag if something in it is read under that flag as it is where the part
starts, that is, if no change of flags stands between. Flags that a part does not heed make no
difference to it, and whether a part can be read at all depends on one flag only.
-/

namespace RecordQuery.Regex

/-! ## Single flags -/

namespace Flags

def get (f : Flags) : Flag → Bool
  | .caseInsensitive => f.caseInsensitive
  | .multiLine => f.multiLine
  | .dotMatchesNewLine => f.dotMatchesNewLine
  | .swapGreed => f.swapGreed
  | .unicode => f.unicode
  | .crlf => f.crlf
  | .ignoreWhitespace => f.ignoreWhitespace

theorem get_set (f : Flags) (on : Bool) (d c : Flag) :
    (f.set on d).get c = if d = c then on else f.get c := by
  cases d <;> cases c <;> rfl

end Flags

/-- Whether a change switches a flag, on or off. -/
def FlagChange.sets (change : FlagChange) (c : Flag) : Bool := change.any (·.1 == c)

theorem Flags.get_change_congr {change : FlagChange} {c : Flag} {f f' : Flags}
    (h : change.sets c = true ∨ f.get c = f'.get c) :
    (f.change change).get c = (f'.change change).get c := by
  induction change generalizing f f' with
  | nil => exact h.resolve_left Bool.false_ne_true
  | cons d change ih =>
    refine ih ?_
    rw [get_set, get_set]
    by_cases hd : d.1 = c
    · exact .inr (by rw [if_pos hd, if_pos hd])
    · rw [if_neg hd, if_neg hd]
      simpa [FlagChange.sets, hd] using h

section

variable {f f' : Flags}

theorem Flags.allow_congr (hunicode : f.unicode = f'.unicode) : f.allow = f'.allow := by
  funext s
  rw [allow, allow, hunicode]

theorem Flags.fold_congr (hunicode : f.unicode = f'.unicode)
    (hcase : f.caseInsensitive = f'.caseInsensitive) : f.fold = f'.fold := by
  funext s
  rw [fold, fold, hunicode, hcase]

theorem ClassSet.chars_congr {a : ClassSet} (hunicode : f.unicode = f'.unicode)
    (hcase : f.caseInsensitive = f'.caseInsensitive) : a.chars f = a.chars f' := by
  have hallow : f.allow = f'.allow := Flags.allow_congr hunicode
  have hfold : f.fold = f'.fold := Flags.fold_congr hunicode hcase
  induction a with
  | empty => rfl
  | range first last => rw [chars, chars, hallow]
  | perl p negated => rw [chars, chars, hallow, hunicode]
  | posix p negated => rw [chars, chars, hallow, hfold]
  | union a b iha ihb => rw [chars, chars, iha, ihb]
  | operation op a b iha ihb => rw [chars, chars, hfold, iha, ihb]
  | bracketed negated a ih => rw [chars, chars, hallow, hfold, ih]

end

namespace Tree

/-! ## Flags behind a part -/

/-- The flags in force behind a part. -/
def after (f : Flags) : Tree → Flags
  | repetition t _ _ _ => t.after f
  | flags change => f.change change
  | seq a b | alt a b => b.after (a.after f)
  | _ => f

/-- Whether a part itself decides about a flag behind it. -/
def settles (c : Flag) : Tree → Bool
  | repetition t _ _ _ => t.settles c
  | flags change => change.sets c
  | seq a b | alt a b => a.settles c || b.settles c
  | _ => false

theorem get_after_congr {t : Tree} {c : Flag} {f f' : Flags}
    (h : t.settles c = true ∨ f.get c = f'.get c) :
    (t.after f).get c = (t.after f').get c := by
  induction t generalizing f f' with
  | repetition t _ _ _ ih => exact ih h
  | flags change => exact Flags.get_change_congr h
  | seq a b iha ihb | alt a b iha ihb =>
    refine ihb ?_
    rw [settles, Bool.or_eq_true] at h
    rcases h with (ha | hb) | heq
    · exact .inr (iha (.inl ha))
    · exact .inl hb
    · exact .inr (iha (.inr heq))
  | _ => exact h.resolve_left Bool.false_ne_true

/-! ## Reading part by part -/

/-- What a part is read as. -/
def pattern (f : Flags) (t : Tree) : Except SyntaxError Pattern := (t.compile f).map Prod.fst

theorem after_of_compile {t : Tree} {f f' : Flags} {p : Pattern} (h : t.compile f = .ok (p, f')) :
    f' = t.after f := by
  induction t generalizing f f' p with
  | empty | assertion | flags =>
    cases h
    rfl
  | literal c asByte =>
    rw [compile] at h
    split at h <;> cases h
    rfl
  | dot | perl | bracketed =>
    obtain ⟨s, -, h⟩ := exists_of_bind_ok h
    cases h
    rfl
  | repetition t min max greedy ih =>
    obtain ⟨⟨q, g⟩, ht, h⟩ := exists_of_bind_ok h
    cases h
    exact ih ht
  | group captures change t ih =>
    obtain ⟨⟨q, g⟩, ht, h⟩ := exists_of_bind_ok h
    cases h
    rfl
  | seq a b iha ihb | alt a b iha ihb =>
    obtain ⟨⟨q, g⟩, ha, h⟩ := exists_of_bind_ok h
    obtain ⟨⟨q', g'⟩, hb, h⟩ := exists_of_bind_ok h
    cases h
    rw [ihb hb, iha ha]
    rfl

theorem compile_eq_pattern (t : Tree) (f : Flags) :
    t.compile f = (t.pattern f).map fun p => (p, t.after f) := by
  unfold pattern
  cases h : t.compile f with
  | error e => rfl
  | ok r =>
    obtain ⟨p, f'⟩ := r
    rw [after_of_compile h]
    rfl

theorem pattern_of_set {t : Tree} {f : Flags} {x : Except SyntaxError CharSet}
    (h : t.compile f = x >>= fun s => .ok (.chars s, f)) : t.pattern f = x.map .chars := by
  rw [pattern, h]
  cases x <;> rfl

section

variable (f : Flags)

theorem pattern_dot :
    dot.pattern f = (f.allow (Unicode.Ranges.compl f.lineBreaks)).map .chars := pattern_of_set rfl

theorem pattern_perl (p : Perl) (negated : Bool) :
    (perl p negated).pattern f = (f.allow ((p.chars f.unicode).complIf negated)).map .chars :=
  pattern_of_set rfl

theorem pattern_bracketed (negated : Bool) (a : ClassSet) :
    (bracketed negated a).pattern f = ((ClassSet.bracketed negated a).chars f).map .chars :=
  pattern_of_set rfl

theorem pattern_repetition (t : Tree) (min : Nat) (max : Option Nat) (greedy : Bool) :
    (repetition t min max greedy).pattern f =
      (t.pattern f).map fun p => .repetition p min max (greedy != (t.after f).swapGreed) := by
  have hcompile : (repetition t min max greedy).compile f = t.compile f >>= fun r =>
      .ok (.repetition r.1 min max (greedy != r.2.swapGreed), r.2) := rfl
  rw [pattern, hcompile, compile_eq_pattern]
  cases t.pattern f <;> rfl

theorem pattern_group (captures : Bool) (change : FlagChange) (t : Tree) :
    (group captures change t).pattern f = (t.pattern (f.change change)).map (.group captures) := by
  have hcompile : (group captures change t).compile f = t.compile (f.change change) >>= fun r =>
      .ok (.group captures r.1, f) := rfl
  rw [pattern, hcompile, compile_eq_pattern]
  cases t.pattern (f.change change) <;> rfl

theorem pattern_of_pair {a b t : Tree} {f : Flags} {join : Pattern → Pattern → Pattern}
    (h : t.compile f = a.compile f >>= fun r => b.compile r.2 >>= fun r' =>
      .ok (join r.1 r'.1, r'.2)) :
    t.pattern f = a.pattern f >>= fun p => (b.pattern (a.after f)).map (join p) := by
  rw [pattern, h, compile_eq_pattern]
  cases a.pattern f with
  | error e => rfl
  | ok p =>
    change ((b.compile (a.after f) >>= fun r => .ok (join p r.1, r.2)).map Prod.fst) = _
    rw [compile_eq_pattern]
    cases b.pattern (a.after f) <;> rfl

theorem pattern_seq (a b : Tree) :
    (seq a b).pattern f = a.pattern f >>= fun p => (b.pattern (a.after f)).map (.seq p) :=
  pattern_of_pair rfl

theorem pattern_alt (a b : Tree) :
    (alt a b).pattern f = a.pattern f >>= fun p => (b.pattern (a.after f)).map (.alt p) :=
  pattern_of_pair rfl

end

/-! ## Flags that make no difference -/

/-- Whether what a part is read as may depend on a flag before it. White space is dropped before
there are parts, so none heeds whether it is. -/
def heeds (c : Flag) : Tree → Bool
  | empty | flags _ => false
  | literal _ _ | bracketed _ _ => c == .caseInsensitive || c == .unicode
  | perl _ _ => c == .unicode
  | dot => c == .dotMatchesNewLine || c == .crlf || c == .unicode
  | assertion .lineStart | assertion .lineEnd => c == .multiLine || c == .crlf
  | assertion .textStart | assertion .textEnd => false
  | assertion _ => c == .unicode
  | repetition t _ _ _ => c == .swapGreed || t.heeds c
  | group _ change t => !change.sets c && t.heeds c
  | seq a b | alt a b => a.heeds c || !a.settles c && b.heeds c

/-- Flags that a part does not heed make no difference to it. -/
theorem pattern_congr {t : Tree} {f f' : Flags}
    (h : ∀ c, t.heeds c = true → f.get c = f'.get c) : t.pattern f = t.pattern f' := by
  induction t generalizing f f' with
  | empty | flags => rfl
  | literal c asByte =>
    have hcase : f.caseInsensitive = f'.caseInsensitive := h .caseInsensitive rfl
    have hunicode : f.unicode = f'.unicode := h .unicode rfl
    simp only [pattern, compile, Flags.fold, hcase, hunicode]
    split_ifs <;> rfl
  | dot =>
    have hdot : f.dotMatchesNewLine = f'.dotMatchesNewLine := h .dotMatchesNewLine rfl
    have hcrlf : f.crlf = f'.crlf := h .crlf rfl
    have hunicode : f.unicode = f'.unicode := h .unicode rfl
    rw [pattern_dot, pattern_dot, Flags.allow_congr hunicode, Flags.lineBreaks, Flags.lineBreaks,
      hdot, hcrlf]
  | perl p negated =>
    have hunicode : f.unicode = f'.unicode := h .unicode rfl
    rw [pattern_perl, pattern_perl, Flags.allow_congr hunicode, hunicode]
  | bracketed negated a =>
    rw [pattern_bracketed, pattern_bracketed,
      ClassSet.chars_congr (h .unicode rfl) (h .caseInsensitive rfl)]
  | assertion a =>
    have hlook : f.look a = f'.look a := by
      cases a with
      | lineStart | lineEnd =>
        have hline : f.multiLine = f'.multiLine := h .multiLine rfl
        have hcrlf : f.crlf = f'.crlf := h .crlf rfl
        simp only [Flags.look, hline, hcrlf]
      | textStart | textEnd => rfl
      | _ =>
        have hunicode : f.unicode = f'.unicode := h .unicode rfl
        simp only [Flags.look, hunicode]
    exact congrArg (fun l => Except.ok (Pattern.look l)) hlook
  | repetition t min max greedy ih =>
    have hinner : t.pattern f = t.pattern f' :=
      ih fun c hc => h c (by rw [heeds, hc, Bool.or_true])
    have hgreed : (t.after f).swapGreed = (t.after f').swapGreed :=
      get_after_congr (.inr (h .swapGreed rfl))
    rw [pattern_repetition, pattern_repetition, hinner, hgreed]
  | group captures change t ih =>
    rw [pattern_group, pattern_group]
    refine congrArg _ (ih fun c hc => Flags.get_change_congr ?_)
    cases hset : change.sets c with
    | true => exact .inl rfl
    | false => exact .inr (h c (by rw [heeds, hset, hc]; rfl))
  | seq a b iha ihb | alt a b iha ihb =>
    have hfirst : a.pattern f = a.pattern f' :=
      iha fun c hc => h c (by rw [heeds, hc, Bool.true_or])
    -- a flag that the first part settles is the same behind it, whatever it was before
    have hsecond : b.pattern (a.after f) = b.pattern (a.after f') := by
      refine ihb fun c hc => get_after_congr ?_
      cases hsettles : a.settles c with
      | true => exact .inl rfl
      | false => exact .inr (h c (by rw [heeds, hsettles, hc]; exact Bool.or_true _))
    simp only [pattern_seq, pattern_alt, hfirst, hsecond]

/-! ## Flags that make a difference -/

/-- Of all flags only Unicode decides whether a part can be read. -/
theorem exists_pattern_of_unicode_eq {t : Tree} {f f' : Flags} (h : f'.unicode = f.unicode)
    {p : Pattern} (hp : t.pattern f = .ok p) : ∃ p', t.pattern f' = .ok p' := by
  induction t generalizing f f' p with
  | empty | flags | assertion => exact ⟨_, rfl⟩
  | literal c asByte =>
    simp only [pattern, compile, h] at hp ⊢
    split_ifs at hp ⊢
    · cases hp
    · exact ⟨_, rfl⟩
  | dot =>
    rw [pattern_dot] at hp ⊢
    cases hunicode : f.unicode with
    | true =>
      rw [Flags.allow, h, hunicode]
      exact ⟨_, rfl⟩
    | false =>
      -- whatever the dot leaves out, it holds more than single bytes
      obtain ⟨s, hs, -⟩ := map_eq_ok_iff.mp hp
      have hascii : f.lineBreaks.isAscii = true := by
        unfold Flags.lineBreaks
        split_ifs <;> rfl
      have hallowed := ((Flags.allow_eq_ok_iff hunicode).mp hs).1
      rw [CharSet.isAscii_compl hascii] at hallowed
      cases hallowed
  | perl q negated =>
    rw [pattern_perl] at hp ⊢
    exact ⟨_, by rw [Flags.allow_congr h, h]; exact hp⟩
  | bracketed negated a =>
    rw [pattern_bracketed] at hp ⊢
    obtain ⟨s, hs, -⟩ := map_eq_ok_iff.mp hp
    obtain ⟨s', hs'⟩ := ClassSet.exists_chars_of_unicode_eq h hs
    exact ⟨_, by rw [hs']; rfl⟩
  | repetition t min max greedy ih =>
    rw [pattern_repetition] at hp ⊢
    obtain ⟨q, hq, -⟩ := map_eq_ok_iff.mp hp
    obtain ⟨q', hq'⟩ := ih h hq
    exact ⟨_, by rw [hq']; rfl⟩
  | group captures change t ih =>
    rw [pattern_group] at hp ⊢
    obtain ⟨q, hq, -⟩ := map_eq_ok_iff.mp hp
    have hinside : (f'.change change).unicode = (f.change change).unicode :=
      Flags.get_change_congr (c := .unicode) (.inr h)
    obtain ⟨q', hq'⟩ := ih hinside hq
    exact ⟨_, by rw [hq']; rfl⟩
  | seq a b iha ihb | alt a b iha ihb =>
    simp only [pattern_seq, pattern_alt] at hp ⊢
    obtain ⟨q, hq, hp⟩ := exists_of_bind_ok hp
    obtain ⟨r, hr, -⟩ := map_eq_ok_iff.mp hp
    have hbehind : (a.after f').unicode = (a.after f).unicode :=
      get_after_congr (c := .unicode) (.inr h)
    obtain ⟨q', hq'⟩ := iha h hq
    obtain ⟨r', hr'⟩ := ihb hbehind hr
    exact ⟨_, by rw [hq']; exact congrArg (Except.map _) hr'⟩

theorem heeds_ignoreWhitespace (t : Tree) : t.heeds .ignoreWhitespace = false := by
  induction t with
  | assertion a => cases a <;> rfl
  | repetition t _ _ _ ih => exact ih
  | group _ change t ih => rw [heeds, ih, Bool.and_false]
  | seq a b iha ihb | alt a b iha ihb => rw [heeds, iha, ihb, Bool.and_false]; rfl
  | _ => rfl

end Tree

/-! ## Flags with nothing to act on -/

/-- The two flags for lines. -/
def Flag.IsOfLines (c : Flag) : Prop := c = .multiLine ∨ c = .dotMatchesNewLine

theorem Flag.IsOfLines.kept {c : Flag} (hc : c.IsOfLines) :
    Tree.Kept fun t => t.heeds c = false := by
  have hcase : (c == .caseInsensitive || c == .unicode) = false := by
    rcases hc with rfl | rfl <;> rfl
  have hgreed : (c == .swapGreed) = false := by rcases hc with rfl | rfl <;> rfl
  refine ⟨rfl, fun _ => rfl, fun _ _ => hcase, fun _ ht => ?_, fun ht => ?_, fun ha hb => ?_,
    fun ha hb => ?_⟩
  · rw [Tree.heeds, hgreed, ht, Bool.or_false]
  · rw [Tree.heeds, ht, Bool.and_false]
  · rw [Tree.heeds, ha, hb, Bool.and_false, Bool.or_false]
  · rw [Tree.heeds, ha, hb, Bool.and_false, Bool.or_false]

theorem boundaryKind_not_heeds {c : Flag} (hc : c.IsOfLines) {ignore : Bool} {s m : List Char}
    {a : Assertion} (h : boundaryKind ignore s = .ok (a, m)) :
    (Tree.assertion a).heeds c = false := by
  have hunicode : (c == .unicode) = false := by rcases hc with rfl | rfl <;> rfl
  unfold boundaryKind at h
  split at h
  · split at h
    · cases h
    · split at h
      · cases h
        exact hunicode
      · split at h <;> cases h <;> exact hunicode
      · cases h
  · cases h
    exact hunicode

theorem escape_not_heeds {c : Flag} (hc : c.IsOfLines) {ignore : Bool} {s m : List Char}
    {p : Primitive} (h : escape ignore s = .ok (p, m)) : p.tree.heeds c = false := by
  have hliteral (d : Char) (asByte : Bool) : (Tree.literal d asByte).heeds c = false := by
    rcases hc with rfl | rfl <;> rfl
  have hunicode : (c == .unicode) = false := by rcases hc with rfl | rfl <;> rfl
  unfold escape at h
  split at h
  · cases h
  · split at h
    case h_20 =>
      obtain ⟨r, hr, heq⟩ := map_eq_ok_iff.mp h
      cases heq
      exact boundaryKind_not_heeds hc hr
    case h_24 =>
      split_ifs at h
      cases h
      exact hliteral _ _
    case h_1 | h_2 | h_3 =>
      obtain ⟨r, -, heq⟩ := map_eq_ok_iff.mp h
      cases heq
      exact hliteral _ _
    case h_4 | h_5 => cases h
    case h_18 | h_19 =>
      cases h
      rfl
    all_goals
      cases h
      first
        | exact hunicode
        | exact hliteral _ _

/-- The characters that stand for what a flag for lines acts on. -/
def Flag.marks : Flag → List Char
  | .multiLine => ['^', '$']
  | .dotMatchesNewLine => ['.']
  | _ => []

theorem primitive_not_heeds {f : Flag} (hf : f.IsOfLines) {ignore : Bool} {c : Char}
    {m m' : List Char} {p : Primitive} (hc : c ∉ f.marks)
    (h : primitive ignore (c :: m) = .ok (p, m')) : p.tree.heeds f = false := by
  simp only [primitive] at h
  split at h
  · exact escape_not_heeds hf h
  · cases h
    rcases hf with rfl | rfl
    exacts [rfl, absurd (by decide) hc]
  · cases h
    rcases hf with rfl | rfl
    exacts [absurd (by decide) hc, rfl]
  · cases h
    rcases hf with rfl | rfl
    exacts [absurd (by decide) hc, rfl]
  · cases h
    rcases hf with rfl | rfl <;> rfl

/-- Without its characters in the text a flag for lines is not heeded. -/
theorem not_heeds_of_marks {f : Flag} (hf : f.IsOfLines) {ignore : Bool} {s : String} {t : Tree}
    (hs : ∀ c ∈ s.toList, c ∉ f.marks) (ht : Tree.parse ignore s = .ok t) : t.heeds f = false :=
  parse_keeps hf.kept (fun c hc _ _ _ _ => primitive_not_heeds hf (hs c hc)) ht

end RecordQuery.Regex
