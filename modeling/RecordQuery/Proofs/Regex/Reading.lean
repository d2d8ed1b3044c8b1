import RecordQuery.Proofs.Outcome
import RecordQuery.Proofs.Regex.Anchoring

/-!
# What is read of a pattern

A property that every part has as it is read, and that putting parts together keeps, is one of
every tree that is read from a text.
-/

namespace RecordQuery.Regex

variable {P : Tree → Prop}

/-- A property that putting parts together keeps. -/
structure Tree.Kept (P : Tree → Prop) : Prop where
  empty : P .empty
  flags (change : FlagChange) : P (.flags change)
  bracketed (negated : Bool) (a : ClassSet) : P (.bracketed negated a)
  repetition {t : Tree} {min : Nat} {max : Option Nat} {greedy : Bool} (hmax : ∀ m ∈ max, min ≤ m)
    (h : P t) : P (.repetition t min max greedy)
  group {captures : Bool} {change : FlagChange} {t : Tree} (h : P t) : P (.group captures change t)
  seq {a b : Tree} (ha : P a) (hb : P b) : P (.seq a b)
  alt {a b : Tree} (ha : P a) (hb : P b) : P (.alt a b)

/-! ## Classes and bounds -/

theorem classFrom_keeps (hP : Tree.Kept P) {ignore : Bool} {fuel : Nat} {frame : ClassFrame}
    {outer : List ClassFrame} {s s' : List Char} {t : Tree}
    (h : classFrom ignore fuel frame outer s = .ok (t, s')) : P t := by
  induction fuel generalizing frame outer s with
  | zero => cases h
  | succ fuel ih =>
    unfold classFrom at h
    split at h
    · cases h
    · split at h
      · exact ih h
      · obtain ⟨r, -, h⟩ := exists_of_bind_ok h
        exact ih h
    · split at h
      · cases h
        exact hP.bracketed _ _
      · exact ih h
    · exact ih h
    · exact ih h
    · exact ih h
    · obtain ⟨r, -, h⟩ := exists_of_bind_ok h
      exact ih h

theorem bracketed_keeps (hP : Tree.Kept P) {ignore : Bool} {s s' : List Char} {t : Tree}
    (h : bracketed ignore s = .ok (t, s')) : P t := by
  obtain ⟨r, -, h⟩ := exists_of_bind_ok h
  exact classFrom_keeps hP h

theorem closeBounds_ordered {ignore : Bool} {least min : Nat} {most max : Option Nat}
    {s s' : List Char} (h : closeBounds ignore least most s = .ok ((min, max), s')) :
    ∀ m ∈ max, min ≤ m := by
  unfold closeBounds at h
  split at h
  · split_ifs at h with hbounds
    cases h
    intro m hm
    obtain rfl : most = some m := hm
    simpa using hbounds
  · cases h

theorem readBounds_ordered {ignore : Bool} {min : Nat} {max : Option Nat} {s s' : List Char}
    (h : readBounds ignore s = .ok ((min, max), s')) : ∀ m ∈ max, min ≤ m := by
  rw [readBounds_eq] at h
  split at h
  · cases h
  · obtain ⟨r, -, h⟩ := exists_of_bind_ok h
    exact closeBounds_ordered h

/-! ## Parts -/

namespace Level

/-- Whether all that has been read has a property. -/
structure All (P : Tree → Prop) (l : Level) : Prop where
  branches : ∀ t ∈ l.branches, P t
  parts : ∀ t ∈ l.parts, P t

variable {l l' : Level}

theorem All.start : Level.start.All P := ⟨by simp [Level.start], by simp [Level.start]⟩

theorem All.add {t : Tree} (h : l.All P) (ht : P t) : (l.add t).All P :=
  ⟨h.branches, List.forall_mem_cons.mpr ⟨ht, h.parts⟩⟩

theorem All.branch (hP : Tree.Kept P) (h : l.All P) : P l.branch := by
  have hfold (before : List Tree) (t : Tree) (ht : P t) (hbefore : ∀ p ∈ before, P p) :
      P (before.foldl (fun t part => .seq part t) t) := by
    induction before generalizing t with
    | nil => exact ht
    | cons p before ih =>
      obtain ⟨hp, hbefore⟩ := List.forall_mem_cons.mp hbefore
      exact ih _ (hP.seq hp ht) hbefore
  have hparts := h.parts
  unfold Level.branch
  cases hl : l.parts with
  | nil => exact hP.empty
  | cons last before =>
    rw [hl] at hparts
    obtain ⟨hlast, hbefore⟩ := List.forall_mem_cons.mp hparts
    exact hfold before last hlast hbefore

theorem All.tree (hP : Tree.Kept P) (h : l.All P) : P l.tree := by
  unfold Level.tree
  split
  · exact h.branch hP
  · next hbranches => exact hP.alt (h.branches _ hbranches) (h.branch hP)

theorem All.repeatLast (hP : Tree.Kept P) {min : Nat} {max : Option Nat} {greedy : Bool}
    (h : l.All P) (hmax : ∀ m ∈ max, min ≤ m) (hl : l.repeatLast min max greedy = .ok l') :
    l'.All P := by
  have hparts := h.parts
  unfold Level.repeatLast at hl
  split at hl
  · cases hl
  · cases hl
  · next last before _ hlist =>
    cases hl
    rw [hlist] at hparts
    obtain ⟨hlast, hbefore⟩ := List.forall_mem_cons.mp hparts
    exact ⟨h.branches, List.forall_mem_cons.mpr ⟨hP.repetition hmax hlast, hbefore⟩⟩

end Level

namespace ReaderState

/-- Whether all that has been read, in and around the open groups, has a property. -/
structure All (P : Tree → Prop) (st : ReaderState) : Prop where
  level : st.level.All P
  enclosing : ∀ g ∈ st.enclosing, g.outside.All P

variable {st st' : ReaderState} {s s' : List Char}

theorem All.enter (h : st.All P) (captures : Bool) (change : FlagChange) :
    (st.enter captures change).All P :=
  ⟨.start, List.forall_mem_cons.mpr ⟨h.level, h.enclosing⟩⟩

theorem All.leave (hP : Tree.Kept P) (h : st.All P) (hst : st.leave = .ok st') : st'.All P := by
  have henclosing := h.enclosing
  unfold ReaderState.leave at hst
  split at hst
  · cases hst
  · next g enclosing hlist =>
    cases hst
    rw [hlist] at henclosing
    obtain ⟨hg, hrest⟩ := List.forall_mem_cons.mp henclosing
    exact ⟨hg.add (hP.group (h.level.tree hP)), hrest⟩

theorem All.repetition (hP : Tree.Kept P) {min : Nat} {max : Option Nat} (h : st.All P)
    (hmax : ∀ m ∈ max, min ≤ m) (hst : Regex.repetition st min max s = .ok (st', s')) :
    st'.All P := by
  rw [repetition_eq] at hst
  obtain ⟨level, hlevel, hst⟩ := exists_of_bind_ok hst
  cases hst
  exact ⟨h.level.repeatLast hP hmax hlevel, h.enclosing⟩

theorem All.readPart (hP : Tree.Kept P) {c : Char}
    (hc : ∀ p m, primitive st.ignore (c :: s) = .ok (p, m) → P p.tree) (h : st.All P)
    (hst : Regex.readPart st c s = .ok (st', s')) : st'.All P := by
  unfold Regex.readPart at hst
  split at hst
  · obtain ⟨⟨o, m⟩, -, hst⟩ := exists_of_bind_ok hst
    cases o with
    | flags change => cases hst; exact ⟨h.level.add (hP.flags change), h.enclosing⟩
    | group captures change => cases hst; exact h.enter captures change
    | named name =>
      simp only at hst
      split_ifs at hst
      cases hst
      exact ⟨(h.enter true []).level, (h.enter true []).enclosing⟩
  · obtain ⟨left, hleft, hst⟩ := exists_of_bind_ok hst
    cases hst
    exact h.leave hP hleft
  · cases hst
    exact ⟨⟨fun t ht => by cases ht; exact h.level.tree hP, by simp⟩, h.enclosing⟩
  · obtain ⟨⟨t, m⟩, ht, hst⟩ := exists_of_bind_ok hst
    cases hst
    exact ⟨h.level.add (bracketed_keeps hP ht), h.enclosing⟩
  · exact h.repetition hP (by simp) hst
  · exact h.repetition hP (by simp) hst
  · exact h.repetition hP (by simp) hst
  · obtain ⟨⟨⟨min, max⟩, m⟩, hbounds, hst⟩ := exists_of_bind_ok hst
    exact h.repetition hP (readBounds_ordered hbounds) hst
  · obtain ⟨⟨p, m⟩, hp, hst⟩ := exists_of_bind_ok hst
    cases hst
    exact ⟨h.level.add (hc p _ hp), h.enclosing⟩

end ReaderState

/-! ## Patterns -/

theorem Grown.suffix {α : Type} {s m : List Char} {Lost : α → List Char → Prop}
    {x y : Except SyntaxError (α × List Char)} {a : α} (h : Grown s Lost x y)
    (hx : x = .ok (a, m)) : m <:+ s := by
  cases h with
  | kept hs h => cases hx; exact hs
  | failed => cases hx
  | astray h => cases hx

theorem readPart_suffix {st st' : ReaderState} {c : Char} {s s' : List Char}
    (h : readPart st c s = .ok (st', s')) : s' <:+ s :=
  (readPart_grown st c (.before s)).suffix h

theorem readParts_keeps (hP : Tree.Kept P) {n : Nat} {st : ReaderState} {s : List Char} {t : Tree}
    (hs : ∀ c ∈ s, ∀ ignore m p m', primitive ignore (c :: m) = .ok (p, m') → P p.tree)
    (h : st.All P) (ht : readParts n st s = .ok t) : P t := by
  induction n generalizing st s with
  | zero => cases ht
  | succ n ih =>
    have hskip : skip st.ignore s <:+ s := skip_suffix
    unfold readParts at ht
    split at ht
    · cases ht
      exact h.level.tree hP
    · cases ht
    · next c m hvisible =>
      rw [hvisible] at hskip
      obtain ⟨⟨st', m'⟩, hst, ht⟩ := exists_of_bind_ok ht
      have hleft : m' <:+ s := (readPart_suffix hst).trans ((List.suffix_cons c m).trans hskip)
      refine ih (fun d hd => hs d (hleft.mem hd)) (h.readPart hP (fun p => ?_) hst) ht
      exact hs c (hskip.mem List.mem_cons_self) st.ignore m p

/-- What reads as a tree has a property that putting parts together keeps, if the primitives have it
that start with a character of the text. -/
theorem parse_keeps (hP : Tree.Kept P) {ignore : Bool} {s : String} {t : Tree}
    (hs : ∀ c ∈ s.toList, ∀ ignore m p m', primitive ignore (c :: m) = .ok (p, m') → P p.tree)
    (ht : Tree.parse ignore s = .ok t) : P t :=
  readParts_keeps hP hs ⟨.start, by simp⟩ ht

end RecordQuery.Regex
