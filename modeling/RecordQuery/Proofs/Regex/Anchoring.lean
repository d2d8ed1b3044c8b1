import RecordQuery.Proofs.Regex.Brackets
import RecordQuery.Regex.Reader

/-!
# Anchored patterns

The parts of a pattern are read one by one, and each is read the same with a closing behind it. So a
text reads as a pattern between anchors exactly if it does on its own, unless it ends in a comment,
which takes the closing in, or has a parenthesis that closes nothing of its own.
-/

namespace RecordQuery.Regex

variable {ignore : Bool} {l l' : List Char}

/-! ## Groups -/

/-- The flags of a group as a value and what is left. -/
def flagsOf (change : FlagChange) (on dangling : Bool) (s : List Char) :
    Except SyntaxError ((FlagChange × Char) × List Char) :=
  (readFlags change on dangling s).map fun r => ((r.1, r.2.1), r.2.2)

theorem flagsOf_grown (change : FlagChange) (on dangling : Bool) (h : Rests l l') :
    Grown l (fun _ m => m = ['$']) (flagsOf change on dangling l)
      (flagsOf change on dangling l') := by
  induction l generalizing change on dangling l' with
  | nil =>
    rcases h.nil_inv with rfl | rfl
    · cases dangling with
      | true => exact .failed
      | false => exact .astray rfl
    · exact .failed
  | cons c w ih =>
    obtain ⟨w', rfl, hw⟩ := h.cons_inv
    have hrest (change : FlagChange) (on dangling : Bool) :
        Grown (c :: w) (fun _ m => m = ['$']) (flagsOf change on dangling w)
          (flagsOf change on dangling w') :=
      (ih change on dangling hw).of_suffix (List.suffix_cons c w)
    unfold flagsOf
    simp only [readFlags]
    split_ifs
    · exact .failed
    · exact .kept (List.suffix_cons c w) hw
    · exact hrest _ _ _
    · exact .failed
    · split
      · exact .failed
      · split_ifs
        · exact .failed
        · exact hrest _ _ _

theorem readName_grown (h : Rests l l') :
    Grown l (fun _ _ => False) (readName l) (readName l') := by
  have hsuffix : l.dropWhile (· != '>') <:+ l := List.dropWhile_suffix _
  unfold readName
  rcases h.delimiter_cases (c := '>') (by decide) with ⟨hl, hl'⟩ | ⟨m, m', hl, hl', hm, hname⟩
  · rw [hl, hl']
    cases l.takeWhile (· != '>') <;> cases l'.takeWhile (· != '>') <;> exact .failed
  · rw [hl, hl', hname]
    rw [hl] at hsuffix
    cases l.takeWhile (· != '>') with
    | nil => exact .failed
    | cons c name =>
      simp only
      split_ifs
      · exact .kept ((List.suffix_cons _ m).trans hsuffix) hm
      · exact .failed

/-- Reads a group that starts with flags, or a change of flags. -/
def flagGroup (s : List Char) : Except SyntaxError (Opening × List Char) := do
  let (r, s) ← flagsOf [] true false s
  if r.2 == ':' then return (.group false r.1, s)
  else if r.1.isEmpty then throw .repetitionMissing
  else return (.flags r.1, s)

theorem flagGroup_grown (h : Rests l l') :
    Grown l (fun _ m => m = ['$']) (flagGroup l) (flagGroup l') := by
  refine (flagsOf_grown [] true false h).bind (fun r m m' hm hrests => ?_)
    fun r m b n hlost hg => ?_
  · simp only
    split_ifs
    · exact .kept hm hrests
    · exact .failed
    · exact .kept hm hrests
  · simp only at hg
    split_ifs at hg
    · cases hg
      exact hlost
    · cases hg
      exact hlost

theorem readOpening_flags {s w : List Char} (h : skip ignore s = '?' :: w)
    (hequal : ∀ m, w ≠ '=' :: m) (hnot : ∀ m, w ≠ '!' :: m) (hangle : ∀ m, w ≠ '<' :: m)
    (hname : ∀ m, w ≠ 'P' :: '<' :: m) : readOpening ignore s = flagGroup w := by
  unfold readOpening
  rw [h]
  split
  · next heq => cases heq; exact absurd rfl (hequal _)
  · next heq => cases heq; exact absurd rfl (hnot _)
  · next heq => cases heq; exact absurd rfl (hangle _)
  · next heq => cases heq; exact absurd rfl (hangle _)
  · next heq => cases heq; exact absurd rfl (hname _)
  · next heq => cases heq; exact absurd rfl (hangle _)
  · next heq =>
    cases heq
    unfold flagGroup flagsOf
    cases readFlags [] true false w <;> rfl
  · next hmark => exact absurd rfl (hmark w)

theorem readOpening_named {s w : List Char} (h : skip ignore s = '?' :: '<' :: w)
    (hequal : ∀ m, w ≠ '=' :: m) (hnot : ∀ m, w ≠ '!' :: m) :
    readOpening ignore s = readName w := by
  simp only [readOpening, h]

theorem readOpening_plain {s : List Char} (h : ∀ w, skip ignore s ≠ '?' :: w) :
    readOpening ignore s = .ok (.group true [], skip ignore s) := by
  simp [readOpening, h]

theorem readOpening_grown (h : Rests l l') :
    Grown l (fun _ m => m = ['$']) (readOpening ignore l) (readOpening ignore l') := by
  have hsuffix : skip ignore l <:+ l := skip_suffix
  have hskip : Rests (skip ignore l) (skip ignore l') := skip_rests h
  rcases hskip.head_cases (c := '?') (by decide) with ⟨w, w', hv, hv', hw⟩ | ⟨hne, hne'⟩
  · rw [hv] at hsuffix
    have hleft : w <:+ l := (List.suffix_cons _ w).trans hsuffix
    rcases hw.head_cases (c := '=') (by decide) with ⟨u, u', rfl, rfl, -⟩ | ⟨hequal, hequal'⟩
    · simp only [readOpening, hv, hv']
      exact .failed
    rcases hw.head_cases (c := '!') (by decide) with ⟨u, u', rfl, rfl, -⟩ | ⟨hnot, hnot'⟩
    · simp only [readOpening, hv, hv']
      exact .failed
    rcases hw.head_cases (c := '<') (by decide) with ⟨u, u', rfl, rfl, hu⟩ | ⟨hangle, hangle'⟩
    · have hname : Grown l (fun _ m => m = ['$']) (readName u) (readName u') :=
        ((readName_grown hu).of_suffix ((List.suffix_cons _ u).trans hleft)).weaken
          fun _ _ => False.elim
      rcases hu.head_cases (c := '=') (by decide) with ⟨t, t', rfl, rfl, -⟩ | ⟨hequal, hequal'⟩
      · simp only [readOpening, hv, hv']
        exact .failed
      rcases hu.head_cases (c := '!') (by decide) with ⟨t, t', rfl, rfl, -⟩ | ⟨hnot, hnot'⟩
      · simp only [readOpening, hv, hv']
        exact .failed
      rw [readOpening_named hv hequal hnot, readOpening_named hv' hequal' hnot']
      exact hname
    have hflags (hname : ∀ m, w ≠ 'P' :: '<' :: m) (hname' : ∀ m, w' ≠ 'P' :: '<' :: m) :
        Grown l (fun _ m => m = ['$']) (readOpening ignore l) (readOpening ignore l') := by
      rw [readOpening_flags hv hequal hnot hangle hname,
        readOpening_flags hv' hequal' hnot' hangle' hname']
      exact (flagGroup_grown hw).of_suffix hleft
    rcases hw.head_cases (c := 'P') (by decide) with ⟨u, u', rfl, rfl, hu⟩ | ⟨hne, hne'⟩
    · rcases hu.head_cases (c := '<') (by decide) with ⟨t, t', rfl, rfl, ht⟩ | ⟨hne, hne'⟩
      · simp only [readOpening, hv, hv']
        exact ((readName_grown ht).of_suffix ((List.suffix_cons _ t).trans
          ((List.suffix_cons _ _).trans hleft))).weaken fun _ _ => False.elim
      · exact hflags (fun m h => hne m (List.cons.inj h).2) fun m h => hne' m (List.cons.inj h).2
    · exact hflags (fun m => hne _) fun m => hne' _
  · rw [readOpening_plain hne, readOpening_plain hne']
    exact .kept hsuffix hskip

/-! ## Repetitions -/

theorem readDecimal_suffix : (readDecimal ignore l).2 <:+ l :=
  (List.dropWhile_suffix _).trans (readRun_suffix.trans (List.dropWhile_suffix _))

theorem readDecimal_rests (ignore : Bool) (h : Rests l l') :
    (readDecimal ignore l').1 = (readDecimal ignore l).1 ∧
      Rests (readDecimal ignore l).2 (readDecimal ignore l').2 := by
  have hspace : Unicode.isWhiteSpace ')' = false := by decide
  have hdigit : Char.isDigit ')' = false := by decide
  obtain ⟨digits, m, m', hm, hm', hrest, -⟩ :=
    readRun_all_cases ignore false hdigit (h.dropWhile hspace)
  simp only [readDecimal, hm, hm']
  exact ⟨trivial, hrest.dropWhile hspace⟩

/-- Reads the upper bound of a repetition, after the lower one. -/
def upperBound (ignore : Bool) (min : Nat) (s : List Char) :
    Except SyntaxError (Option Nat × List Char) :=
  match s with
  | ',' :: rest =>
    match skip ignore rest with
    | '}' :: rest => .ok (none, '}' :: rest)
    | rest =>
      match (readDecimal ignore rest).1 with
      | some max => .ok (some max, (readDecimal ignore rest).2)
      | none => .error .repetitionCount
  | s => .ok (some min, s)

/-- Reads the brace that closes the bounds. -/
def closeBounds (ignore : Bool) (min : Nat) (max : Option Nat) (s : List Char) :
    Except SyntaxError ((Nat × Option Nat) × List Char) :=
  match s with
  | '}' :: rest =>
    if max.all (min ≤ ·) then .ok ((min, max), skip ignore rest) else .error .repetitionReversed
  | _ => .error .repetitionUnclosed

theorem readBounds_eq (s : List Char) :
    readBounds ignore s =
      match (readDecimal ignore (skip ignore s)).1 with
      | none => .error .repetitionCount
      | some min =>
        upperBound ignore min (readDecimal ignore (skip ignore s)).2 >>= fun r =>
          closeBounds ignore min r.1 r.2 := by
  simp only [readBounds]
  cases (readDecimal ignore (skip ignore s)).1 with
  | none => rfl
  | some min =>
    simp only
    split
    · next rest hm =>
      split
      · next hv =>
        simp only [hm, upperBound, hv]
        rfl
      · next hv =>
        simp only [hm, upperBound]
        cases (readDecimal ignore (skip ignore rest)).1 <;> rfl
    · next hm =>
      simp only [upperBound]
      rfl

theorem upperBound_grown (min : Nat) (h : Rests l l') :
    Grown l (fun _ _ => False) (upperBound ignore min l) (upperBound ignore min l') := by
  rcases h.head_cases (c := ',') (by decide) with ⟨m, m', rfl, rfl, hm⟩ | ⟨hne, hne'⟩
  · have hsuffix : skip ignore m <:+ m := skip_suffix
    have hskip : Rests (skip ignore m) (skip ignore m') := skip_rests hm
    have hleft : m <:+ ',' :: m := List.suffix_cons _ m
    rcases hskip.head_cases (c := '}') (by decide) with ⟨n, n', hv, hv', hn⟩ | ⟨hne, hne'⟩
    · rw [hv, hv'] at hskip
      rw [hv] at hsuffix
      simp only [upperBound, hv, hv']
      exact .kept (hsuffix.trans hleft) hskip
    · have hbound (s : List Char) (hs : ∀ n, skip ignore s ≠ '}' :: n) :
          upperBound ignore min (',' :: s) =
            match (readDecimal ignore (skip ignore s)).1 with
            | some max => .ok (some max, (readDecimal ignore (skip ignore s)).2)
            | none => .error .repetitionCount := by
        simp only [upperBound]
      obtain ⟨hmax, hrest⟩ := readDecimal_rests ignore hskip
      rw [hbound m hne, hbound m' hne', hmax]
      cases (readDecimal ignore (skip ignore m)).1 with
      | none => exact .failed
      | some max => exact .kept (readDecimal_suffix.trans (hsuffix.trans hleft)) hrest
  · have hplain (s : List Char) (hs : ∀ m, s ≠ ',' :: m) :
        upperBound ignore min s = .ok (some min, s) := by
      simp only [upperBound]
    rw [hplain l hne, hplain l' hne']
    exact .kept List.suffix_rfl h

theorem closeBounds_grown (min : Nat) (max : Option Nat) (h : Rests l l') :
    Grown l (fun _ _ => False) (closeBounds ignore min max l) (closeBounds ignore min max l') := by
  rcases h.head_cases (c := '}') (by decide) with ⟨m, m', rfl, rfl, hm⟩ | ⟨hne, hne'⟩
  · simp only [closeBounds]
    split_ifs
    · exact .kept (skip_suffix.trans (List.suffix_cons _ m)) (skip_rests hm)
    · exact .failed
  · simpa [closeBounds, hne, hne'] using .failed

theorem readBounds_grown (h : Rests l l') :
    Grown l (fun _ _ => False) (readBounds ignore l) (readBounds ignore l') := by
  have hskip : Rests (skip ignore l) (skip ignore l') := skip_rests h
  obtain ⟨hmin, hrest⟩ := readDecimal_rests ignore hskip
  rw [readBounds_eq, readBounds_eq, hmin]
  cases (readDecimal ignore (skip ignore l)).1 with
  | none => exact .failed
  | some min =>
    refine Grown.of_suffix ((upperBound_grown min hrest).bind (fun max m m' hm hrests => ?_)
      fun _ _ _ _ => False.elim) (readDecimal_suffix.trans skip_suffix)
    exact (closeBounds_grown min max hrests).of_suffix hm

/-- Whether a repetition is greedy, and what follows the mark that tells. -/
def readGreed (s : List Char) : Bool × List Char :=
  match s with
  | '?' :: rest => (false, rest)
  | rest => (true, rest)

theorem readGreed_rests (h : Rests l l') :
    (readGreed l').1 = (readGreed l).1 ∧ Rests (readGreed l).2 (readGreed l').2 ∧
      (readGreed l).2 <:+ l := by
  rcases h.head_cases (c := '?') (by decide) with ⟨m, m', rfl, rfl, hm⟩ | ⟨hne, hne'⟩
  · exact ⟨rfl, hm, List.suffix_cons _ m⟩
  · have hplain (s : List Char) (hs : ∀ m, s ≠ '?' :: m) : readGreed s = (true, s) := by
      simp only [readGreed]
    rw [hplain l hne, hplain l' hne']
    exact ⟨rfl, h, List.suffix_rfl⟩

theorem repetition_eq (st : ReaderState) (min : Nat) (max : Option Nat) (s : List Char) :
    repetition st min max s = do
      let level ← st.level.repeatLast min max (readGreed s).1
      return ({ st with level }, (readGreed s).2) := by
  rfl

theorem repetition_grown (st : ReaderState) (min : Nat) (max : Option Nat) (h : Rests l l') :
    Grown l (fun _ _ => False) (repetition st min max l) (repetition st min max l') := by
  obtain ⟨hgreed, hrest, hleft⟩ := readGreed_rests h
  rw [repetition_eq, repetition_eq, hgreed]
  exact Grown.bind_step fun level _ => .kept hleft hrest

/-! ## Parts -/

/-- A part that is read only with the closing leaves its anchor, or a brace that opens no bounds. -/
def LostPart (st : ReaderState) (s : List Char) : Prop :=
  s = ['$'] ∨ ∃ m, s = '{' :: m ∧ skip st.ignore m = closing

theorem readPart_grown (st : ReaderState) (c : Char) (h : Rests l l') :
    Grown l LostPart (readPart st c l) (readPart st c l') := by
  unfold readPart
  split
  · refine (readOpening_grown h).bind (fun o m m' hm hrests => ?_) fun o m b n hlost hg => ?_
    · cases o with
      | group captures change => exact .kept hm hrests
      | flags change => exact .kept hm hrests
      | named name =>
        simp only
        split_ifs
        · exact .failed
        · exact .kept hm hrests
    · cases o with
      | group captures change => cases hg; exact .inl hlost
      | flags change => cases hg; exact .inl hlost
      | named name =>
        simp only at hg
        split_ifs at hg
        cases hg
        exact .inl hlost
  · exact Grown.bind_step fun st _ => .kept List.suffix_rfl h
  · exact .kept List.suffix_rfl h
  · exact (bracketed_grown h).bind (fun t m m' hm hrests => .kept hm hrests)
      fun _ _ _ _ => False.elim
  · exact (repetition_grown st _ _ h).weaken fun _ _ => False.elim
  · exact (repetition_grown st _ _ h).weaken fun _ _ => False.elim
  · exact (repetition_grown st _ _ h).weaken fun _ _ => False.elim
  · refine (readBounds_grown h).bind (fun bounds m m' hm hrests => ?_) fun _ _ _ _ => False.elim
    exact ((repetition_grown st _ _ hrests).of_suffix hm).weaken fun _ _ => False.elim
  · refine (primitive_grown c h).bind (fun p m m' hm hrests => .kept hm hrests)
      fun p m b n hlost hg => ?_
    cases hg
    rcases hlost with rfl | ⟨a, rfl, -, hloose⟩
    · exact .inl rfl
    · exact .inr hloose

/-- The same state inside further groups. -/
def ReaderState.within (st : ReaderState) (outer : List OpenGroup) : ReaderState :=
  { st with enclosing := st.enclosing ++ outer }

theorem repetition_within (st : ReaderState) (min : Nat) (max : Option Nat)
    (outer : List OpenGroup) (s : List Char) :
    repetition (st.within outer) min max s =
      (repetition st min max s).map fun r => (r.1.within outer, r.2) := by
  rw [repetition_eq, repetition_eq]
  change st.level.repeatLast min max (readGreed s).1 >>= _ = _
  cases st.level.repeatLast min max (readGreed s).1 <;> rfl

/-- The groups around it only matter to the parenthesis that closes them. -/
theorem readPart_within {st : ReaderState} {c : Char} (outer : List OpenGroup) (s : List Char)
    (h : c ≠ ')' ∨ st.enclosing ≠ []) :
    readPart (st.within outer) c s =
      (readPart st c s).map fun r => (r.1.within outer, r.2) := by
  unfold readPart
  split
  · change readOpening st.ignore s >>= _ = _
    cases readOpening st.ignore s with
    | error e => rfl
    | ok r =>
      obtain ⟨o, m⟩ := r
      cases o with
      | group captures change => rfl
      | flags change => rfl
      | named name =>
        change (if st.names.contains name then _ else _) =
          Except.map _ (if st.names.contains name then _ else _)
        split_ifs <;> rfl
  · have hopen : st.enclosing ≠ [] := h.resolve_left fun h => h rfl
    obtain ⟨g, enclosing, hst⟩ := List.exists_cons_of_ne_nil hopen
    simp only [ReaderState.leave, ReaderState.within, hst]
    rfl
  · rfl
  · change bracketed st.ignore s >>= _ = _
    cases bracketed st.ignore s <;> rfl
  · exact repetition_within st _ _ outer s
  · exact repetition_within st _ _ outer s
  · exact repetition_within st _ _ outer s
  · change readBounds st.ignore s >>= _ = _
    cases readBounds st.ignore s with
    | error e => rfl
    | ok r => exact repetition_within st _ _ outer r.2
  · change primitive st.ignore (c :: s) >>= _ = _
    cases primitive st.ignore (c :: s) <;> rfl

/-! ## Patterns -/

theorem readParts_cons {n : Nat} {st : ReaderState} {s w : List Char} {c : Char}
    (h : skip st.ignore s = c :: w) :
    readParts (n + 1) st s = readPart st c w >>= fun r => readParts n r.1 r.2 := by
  simp only [readParts, h]

theorem readParts_step {n : Nat} {st st' : ReaderState} {s w w' : List Char} {c : Char}
    (h : skip st.ignore s = c :: w) (hpart : readPart st c w = .ok (st', w')) :
    readParts (n + 1) st s = readParts n st' w' := by
  rw [readParts_cons h, hpart]
  rfl

/-- The text ends inside a group. -/
theorem readParts_open {n : Nat} {st : ReaderState} {s : List Char} (hopen : st.enclosing ≠ [])
    (h : skip st.ignore s = []) : readParts n st s = .error .groupUnclosed := by
  cases n with
  | zero => rfl
  | succ n =>
    obtain ⟨g, enclosing, hst⟩ := List.exists_cons_of_ne_nil hopen
    simp only [readParts, h, hst]
    rfl

/-- Nothing closes a group whose parenthesis has been read as part of something else. -/
theorem readParts_lost {n : Nat} {st : ReaderState} {s : List Char} (hopen : st.enclosing ≠ [])
    (h : LostPart st s) : ∃ e, readParts n st s = .error e := by
  cases n with
  | zero => exact ⟨_, rfl⟩
  | succ n =>
    have hvisible (c : Char) (m : List Char) (hc : c = '$' ∨ c = '{') :
        skip st.ignore (c :: m) = c :: m := by
      rcases hc with rfl | rfl <;> cases st.ignore <;> rfl
    rcases h with rfl | ⟨m, rfl, hm⟩
    · rw [readParts_cons (hvisible '$' [] (.inl rfl))]
      exact ⟨_, readParts_open hopen (by cases st.ignore <;> rfl)⟩
    · rw [readParts_cons (hvisible '{' m (.inr rfl))]
      have hbounds : readBounds st.ignore m = .error .repetitionCount := by
        rw [readBounds_eq, hm]
        cases st.ignore <;> rfl
      refine ⟨.repetitionCount, ?_⟩
      simp only [readPart, hbounds]
      rfl

/-- What a text reads as, and what it reads as inside open groups with the closing behind it. -/
inductive Closed (plain : Except SyntaxError Tree)
    (inside : Nat → List OpenGroup → Except SyntaxError Tree) : Prop
  | unopened (hplain : plain = .error .groupUnopened)
  | failed {e : SyntaxError} (hplain : plain = .error e)
    (hinside : ∀ k outer, outer ≠ [] → ∃ e, inside k outer = .error e)
  | ended {st : ReaderState} {n : Nat} {s : List Char} (hplain : plain = .ok st.level.tree)
    (hst : st.enclosing = []) (hs : skip st.ignore s = closing ∨ skip st.ignore s = [])
    (hinside : ∀ k outer, inside k outer = readParts (n + 1 + k) (st.within outer) s)

theorem readParts_closed {n : Nat} {st : ReaderState} (h : Rests l l') (hn : l.length < n) :
    Closed (readParts n st l) fun k outer => readParts (n + k) (st.within outer) l' := by
  induction n generalizing st l l' with
  | zero => exact absurd hn (Nat.not_lt_zero _)
  | succ n ih =>
    have hskip : Rests (skip st.ignore l) (skip st.ignore l') := skip_rests h
    have hleft : skip st.ignore l <:+ l := skip_suffix
    have houter {outer : List OpenGroup} (hne : outer ≠ []) : (st.within outer).enclosing ≠ [] :=
      List.append_ne_nil_of_right_ne_nil _ hne
    simp only [Nat.add_right_comm n 1]
    cases hv : skip st.ignore l with
    | nil =>
      rw [hv] at hskip
      cases henclosing : st.enclosing with
      | nil =>
        refine .ended (n := n) (s := l') ?_ henclosing hskip.nil_inv fun _ _ => ?_
        · simp only [readParts, hv, henclosing]
          rfl
        · rw [Nat.add_right_comm]
      | cons g enclosing =>
        have hopen : st.enclosing ≠ [] := by simp [henclosing]
        refine .failed (readParts_open hopen hv) fun k outer hne => ?_
        rcases hskip.nil_inv with hv' | hv'
        · have hvisible : skip (st.within outer).ignore l' = ')' :: ['$'] := hv'
          rw [readParts_cons hvisible, readPart_within _ _ (.inr hopen)]
          simp only [readPart, ReaderState.leave, henclosing]
          exact readParts_lost (List.append_ne_nil_of_right_ne_nil _ hne) (.inl rfl)
        · exact ⟨_, readParts_open (houter hne) hv'⟩
    | cons c w =>
      rw [hv] at hskip hleft
      obtain ⟨w', hv', hw⟩ := hskip.cons_inv
      rw [readParts_cons hv]
      by_cases hc : c = ')' ∧ st.enclosing = []
      · obtain ⟨rfl, hst⟩ := hc
        refine .unopened ?_
        simp only [readPart, ReaderState.leave, hst]
        rfl
      have hinside (k : Nat) (outer : List OpenGroup) :
          readParts (n + k + 1) (st.within outer) l' =
            readPart st c w' >>= fun r => readParts (n + k) (r.1.within outer) r.2 := by
        have hvisible : skip (st.within outer).ignore l' = c :: w' := hv'
        rw [readParts_cons hvisible, readPart_within _ _ (by tauto)]
        cases readPart st c w' <;> rfl
      simp only [hinside]
      have hpart := readPart_grown st c hw
      generalize readPart st c w = x at hpart
      generalize readPart st c w' = y at hpart
      cases hpart with
      | @kept st m m' hm hrests =>
        have hmore : m.length < l.length := hm.length_le.trans_lt hleft.length_le
        exact ih hrests (hmore.trans_le (Nat.le_of_lt_succ hn))
      | @failed e e' => exact .failed rfl fun _ _ _ => ⟨e', rfl⟩
      | @astray e st m hlost =>
        refine .failed rfl fun k outer hne => ?_
        exact readParts_lost (List.append_ne_nil_of_right_ne_nil _ hne) hlost

/-- A pattern in a group of its own, between anchors. -/
def Tree.anchored (t : Tree) : Tree :=
  .seq (.assertion .lineStart) (.seq (.group false [] t) (.assertion .lineEnd))

/-- The closing leaves the group that it stands in, and ends with the anchor. -/
theorem readParts_closing {n : Nat} {st : ReaderState} {s : List Char} (g : OpenGroup)
    (hst : st.enclosing = []) (hs : skip st.ignore s = closing) :
    readParts (n + 3) (st.within [g]) s =
      .ok ((g.outside.add (.group g.captures g.change st.level.tree)).add
        (.assertion .lineEnd)).tree := by
  have hparen : skip (st.within [g]).ignore s = ')' :: ['$'] := hs
  have hanchor : skip g.ignoreOutside ['$'] = '$' :: [] := by cases g.ignoreOutside <;> rfl
  rw [readParts_cons hparen]
  simp only [readPart, ReaderState.leave, ReaderState.within, hst]
  change readParts (n + 2) _ _ = _
  rw [readParts_cons hanchor]
  rfl

def ReaderState.start : ReaderState := ⟨.start, false, [], []⟩

/-- The group that is open behind an anchor. -/
def anchorGroup : OpenGroup := ⟨false, [], ⟨none, [.assertion .lineStart]⟩, false⟩

theorem skip_visible (s : List Char) : skip false s = s := by
  cases s <;> rfl

theorem parse_anchored_eq (p : String) :
    Tree.parse false ("^(?:" ++ p ++ ")$") =
      readParts (p.toList.length + 1 + 4) (ReaderState.start.within [anchorGroup])
        (p.toList ++ closing) := by
  have hchars : ("^(?:" ++ p ++ ")$").toList =
      '^' :: '(' :: '?' :: ':' :: (p.toList ++ closing) := by
    simp [closing]
  have hlength : ("^(?:" ++ p ++ ")$").toList.length + 1 = p.toList.length + 1 + 4 + 1 + 1 := by
    simp [hchars, closing]
  have hanchor (s : List Char) :
      readPart .start '^' s = .ok (ReaderState.start.add (.assertion .lineStart), s) := rfl
  have hopen (s : List Char) :
      readPart (ReaderState.start.add (.assertion .lineStart)) '(' ('?' :: ':' :: s) =
        .ok (ReaderState.start.within [anchorGroup], s) := rfl
  rw [Tree.parse, hlength, hchars]
  exact (readParts_step (skip_visible _) (hanchor _)).trans
    (readParts_step (skip_visible _) (hopen _))

/-- What a text between anchors reads as, by what it reads as on its own. A pattern that ends in a
comment reads the same with a closing behind it. -/
theorem parse_anchored (p : String) :
    Tree.parse false p = .error .groupUnopened ∨
    ((∃ e, Tree.parse false p = .error e) ∧
      ∃ e, Tree.parse false ("^(?:" ++ p ++ ")$") = .error e) ∨
    ∃ tree, Tree.parse false p = .ok tree ∧
      ((Tree.parse false (p ++ ")$") = .ok tree ∧
          ∃ e, Tree.parse false ("^(?:" ++ p ++ ")$") = .error e) ∨
        (Tree.parse false (p ++ ")$") = .error .groupUnopened ∧
          Tree.parse false ("^(?:" ++ p ++ ")$") = .ok tree.anchored)) := by
  have hbehind : Tree.parse false (p ++ ")$") =
      readParts (p.toList.length + 1 + 2) (ReaderState.start.within []) (p.toList ++ closing) := by
    simp [Tree.parse, closing]
    rfl
  rw [parse_anchored_eq]
  have hclosed : Closed (Tree.parse false p) fun k outer =>
      readParts (p.toList.length + 1 + k) (ReaderState.start.within outer) (p.toList ++ closing) :=
    readParts_closed (.before p.toList) (Nat.lt_succ_self _)
  generalize hplain : Tree.parse false p = plain at hclosed
  cases hclosed with
  | unopened h => exact .inl h
  | failed h hinside => exact .inr (.inl ⟨⟨_, h⟩, hinside 4 _ (List.cons_ne_nil _ _)⟩)
  | @ended st n s h hst hs hinside =>
    refine .inr (.inr ⟨st.level.tree, h, ?_⟩)
    rw [hinside 4, hbehind, hinside 2]
    have hself : st.within [] = st := by simp [ReaderState.within]
    rw [hself]
    rcases hs with hs | hs
    · refine .inr ⟨?_, readParts_closing anchorGroup hst hs⟩
      rw [readParts_cons hs]
      simp only [readPart, ReaderState.leave, hst]
      rfl
    · refine .inl ⟨?_, _, readParts_open ?_ hs⟩
      · simp only [readParts, hs, hst]
        rfl
      · simp [ReaderState.within]

example : Tree.parse false ("(?x)a # c" ++ ")$") = Tree.parse false "(?x)a # c" := rfl

end RecordQuery.Regex
