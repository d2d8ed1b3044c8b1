import Mathlib.Data.List.Infix
import Mathlib.Data.List.TakeWhile
import RecordQuery.Regex.Escape

/-!
# Patterns with a closing behind them

A reader is run on a text and on the same text with a closing behind it. As long as it stops ahead
of the end, both runs give the same and leave the same, up to the closing. At the end the first run
fails, and the second may take characters of the closing for its own.
-/

namespace RecordQuery.Regex

/-- What closes the group around a pattern and anchors its end. -/
def closing : List Char := [')', '$']

/-- What is left of a text, and what is left of it with the closing behind it. A comment that is
still open at the end of the text takes the closing with it. -/
inductive Rests : List Char → List Char → Prop
  | before (l : List Char) : Rests l (l ++ closing)
  | swallowed : Rests [] []

namespace Rests

variable {c : Char} {l l' : List Char}

theorem length_le (h : Rests l l') : l.length ≤ l'.length := by
  cases h <;> simp

theorem cons_inv (h : Rests (c :: l) l') : ∃ m, l' = c :: m ∧ Rests l m := by
  cases h
  exact ⟨_, rfl, .before l⟩

theorem nil_inv (h : Rests [] l') : l' = closing ∨ l' = [] := by
  generalize hl : ([] : List Char) = l at h
  cases h with
  | before => exact .inl (by rw [← hl]; rfl)
  | swallowed => exact .inr rfl

theorem head?_eq_iff (h : Rests l l') (hc : c ≠ ')') : l'.head? = some c ↔ l.head? = some c := by
  cases h with
  | swallowed => rfl
  | before l =>
    cases l with
    | nil => simpa [closing] using hc.symm
    | cons => rfl

/-- Past the closing parenthesis, both start with a given character or neither does. -/
theorem head_cases (h : Rests l l') (hc : c ≠ ')') :
    (∃ m m', l = c :: m ∧ l' = c :: m' ∧ Rests m m') ∨ (∀ m, l ≠ c :: m) ∧ ∀ m, l' ≠ c :: m := by
  cases h with
  | swallowed => simp
  | before l =>
    cases l with
    | nil => simpa [closing] using fun h => absurd h.symm hc
    | cons d l =>
      by_cases hd : d = c
      · exact .inl ⟨l, l ++ closing, by rw [hd], by rw [hd]; rfl, .before l⟩
      · exact .inr (by simp [hd])

theorem pair_cases (h : Rests l l') (hc : c ≠ ')') :
    (∃ m m', l = c :: c :: m ∧ l' = c :: c :: m' ∧ Rests m m') ∨
      (∀ m, l ≠ c :: c :: m) ∧ ∀ m, l' ≠ c :: c :: m := by
  rcases h.head_cases hc with ⟨m, m', rfl, rfl, hm⟩ | ⟨hne, hne'⟩
  · rcases hm.head_cases hc with ⟨n, n', rfl, rfl, hn⟩ | ⟨hne, hne'⟩
    · exact .inl ⟨n, n', rfl, rfl, hn⟩
    · exact .inr ⟨fun n h => hne n (List.cons.inj h).2, fun n h => hne' n (List.cons.inj h).2⟩
  · exact .inr ⟨fun m => hne (c :: m), fun m => hne' (c :: m)⟩

theorem dropWhile {p : Char → Bool} (hp : p ')' = false) (h : Rests l l') :
    Rests (l.dropWhile p) (l'.dropWhile p) := by
  cases h with
  | swallowed => exact .swallowed
  | before l =>
    induction l with
    | nil => simpa [closing, List.dropWhile, hp] using Rests.before []
    | cons d l ih =>
      rw [List.cons_append, List.dropWhile_cons, List.dropWhile_cons]
      split
      · exact ih
      · exact .before _

theorem delimiter_cases (hc : c ∉ closing) (h : Rests l l') :
    (l.dropWhile (· != c) = [] ∧ l'.dropWhile (· != c) = []) ∨
      ∃ m m', l.dropWhile (· != c) = c :: m ∧ l'.dropWhile (· != c) = c :: m' ∧ Rests m m' ∧
        l'.takeWhile (· != c) = l.takeWhile (· != c) := by
  have hclosing : closing.dropWhile (· != c) = [] := by
    rw [List.dropWhile_eq_nil_iff]
    intro d hd
    exact bne_iff_ne.mpr fun heq => hc (heq ▸ hd)
  cases h with
  | swallowed => exact .inl ⟨rfl, rfl⟩
  | before l =>
    induction l with
    | nil => exact .inl ⟨rfl, hclosing⟩
    | cons d l ih =>
      by_cases hd : d = c
      · subst hd
        exact .inr ⟨l, l ++ closing, by simp, by simp, .before l, by simp⟩
      · have hskip : (d != c) = true := bne_iff_ne.mpr hd
        simpa [List.dropWhile_cons, List.takeWhile_cons, hskip] using ih

end Rests

/-! ## White space and comments -/

section Layout

variable {ignore inComment : Bool} {p : Char → Bool} {limit : Nat} {l l' : List Char}

theorem readRun_suffix : (readRun ignore p limit inComment l).2 <:+ l := by
  induction l generalizing limit inComment with
  | nil => exact List.suffix_rfl
  | cons c l ih =>
    simp only [readRun]
    split_ifs
    · exact ih.trans (List.suffix_cons c l)
    · exact ih.trans (List.suffix_cons c l)
    · exact ih.trans (List.suffix_cons c l)
    · exact List.suffix_rfl
    · exact ih.trans (List.suffix_cons c l)

theorem readRun_closing (hp : p ')' = false) :
    readRun ignore p limit false [')', '$'] = ([], [')', '$']) := by
  have hvisible : (ignore && Unicode.isWhiteSpace ')') = false := by
    rw [show Unicode.isWhiteSpace ')' = false by decide, Bool.and_false]
  simp [readRun, hvisible, hp]

theorem readRun_congr_limit {limit' : Nat} (h : l.length ≤ limit) (h' : l.length ≤ limit') :
    readRun ignore p limit inComment l = readRun ignore p limit' inComment l := by
  induction l generalizing limit limit' inComment with
  | nil => rfl
  | cons c l ih =>
    rw [List.length_cons] at h h'
    have hrest (b : Bool) : readRun ignore p limit b l = readRun ignore p limit' b l :=
      ih (by omega) (by omega)
    have hone : readRun ignore p (limit - 1) false l = readRun ignore p (limit' - 1) false l :=
      ih (by omega) (by omega)
    have hpos : (limit == 0) = false ∧ (limit' == 0) = false := by
      simp only [beq_eq_false_iff_ne]
      omega
    simp only [readRun, hrest, hone, hpos]

theorem readRun_rests (ignore inComment : Bool) (limit : Nat) (hp : p ')' = false)
    (h : Rests l l') :
    (readRun ignore p limit inComment l').1 = (readRun ignore p limit inComment l).1 ∧
      Rests (readRun ignore p limit inComment l).2 (readRun ignore p limit inComment l').2 := by
  cases h with
  | swallowed => exact ⟨rfl, .swallowed⟩
  | before l =>
    induction l generalizing limit inComment with
    | nil =>
      cases inComment with
      | true => exact ⟨rfl, .swallowed⟩
      | false =>
        rw [List.nil_append, closing, readRun_closing hp]
        exact ⟨rfl, .before []⟩
    | cons c l ih =>
      simp only [List.cons_append, readRun]
      split_ifs
      · exact ih _ _
      · exact ih _ _
      · exact ih _ _
      · exact ⟨rfl, .before (c :: l)⟩
      · exact ⟨congrArg (c :: ·) (ih _ _).1, (ih _ _).2⟩

theorem readRun_all_cases (ignore inComment : Bool) (hp : p ')' = false) (h : Rests l l') :
    ∃ run m m', readRun ignore p l.length inComment l = (run, m) ∧
      readRun ignore p l'.length inComment l' = (run, m') ∧ Rests m m' ∧ m <:+ l := by
  obtain ⟨hrun, hrest⟩ := readRun_rests ignore inComment l'.length hp h
  rw [readRun_congr_limit h.length_le le_rfl] at hrun hrest
  exact ⟨_, _, (readRun ignore p l'.length inComment l').2, rfl, Prod.ext hrun rfl, hrest,
    readRun_suffix⟩

theorem skip_suffix : skip ignore l <:+ l := readRun_suffix

theorem skip_rests (h : Rests l l') : Rests (skip ignore l) (skip ignore l') :=
  (readRun_rests ignore false 0 rfl h).2

end Layout

/-! ## Readings -/

/-- Two readings of a text, without and with the closing behind it. A reading that only ends with
the text may go on into the closing, with what `Lost` says. -/
inductive Grown {α : Type} (s : List Char) (Lost : α → List Char → Prop) :
    Except SyntaxError (α × List Char) → Except SyntaxError (α × List Char) → Prop
  | kept {a : α} {l l' : List Char} (hs : l <:+ s) (h : Rests l l') :
    Grown s Lost (.ok (a, l)) (.ok (a, l'))
  | failed {e e' : SyntaxError} : Grown s Lost (.error e) (.error e')
  | astray {e : SyntaxError} {a : α} {l : List Char} (h : Lost a l) :
    Grown s Lost (.error e) (.ok (a, l))

namespace Grown

variable {α β : Type} {s s' : List Char} {Lost : α → List Char → Prop}
  {Lost' : β → List Char → Prop} {x y : Except SyntaxError (α × List Char)}

theorem of_suffix (h : Grown s Lost x y) (hs : s <:+ s') : Grown s' Lost x y := by
  cases h with
  | kept hl h => exact .kept (hl.trans hs) h
  | failed => exact .failed
  | astray h => exact .astray h

theorem weaken {Lost' : α → List Char → Prop} (h : Grown s Lost x y)
    (hlost : ∀ a l, Lost a l → Lost' a l) : Grown s Lost' x y := by
  cases h with
  | kept hl h => exact .kept hl h
  | failed => exact .failed
  | astray h => exact .astray (hlost _ _ h)

theorem bind {f g : α × List Char → Except SyntaxError (β × List Char)} (h : Grown s Lost x y)
    (hkept : ∀ a l l', l <:+ s → Rests l l' → Grown s Lost' (f (a, l)) (g (a, l')))
    (hlost : ∀ a l b m, Lost a l → g (a, l) = .ok (b, m) → Lost' b m) :
    Grown s Lost' (x >>= f) (y >>= g) := by
  cases h with
  | kept hl h => exact hkept _ _ _ hl h
  | failed => exact .failed
  | @astray e a l h =>
    change Grown s Lost' (.error e) (g (a, l))
    cases hg : g (a, l) with
    | error e' => exact .failed
    | ok r => exact .astray (hlost a l r.1 r.2 h hg)

theorem bind_step {γ : Type} {z : Except SyntaxError γ}
    {f g : γ → Except SyntaxError (β × List Char)}
    (h : ∀ c, z = .ok c → Grown s Lost' (f c) (g c)) :
    Grown s Lost' (z >>= f) (z >>= g) := by
  cases z with
  | error e => exact .failed
  | ok c => exact h c rfl

theorem map (f : α → β) (h : Grown s Lost x y) (hlost : ∀ a l, Lost a l → Lost' (f a) l) :
    Grown s Lost' (x.map fun r => (f r.1, r.2)) (y.map fun r => (f r.1, r.2)) := by
  cases h with
  | kept hl h => exact .kept hl h
  | failed => exact .failed
  | astray h => exact .astray (hlost _ _ h)

end Grown

/-! ## Escapes -/

section Escapes

variable {ignore : Bool} {l l' : List Char}

theorem hexEscape_digits {count : Nat} {s w : List Char} {c : Char} (h : skip ignore s = c :: w)
    (hc : c ≠ '{') :
    hexEscape ignore count s =
      let r := readRun ignore (fun c => (hexDigit? c).isSome) count false (c :: w)
      if r.1.length == count then do return (← charOfHex r.1, r.2) else .error .escapeHex := by
  simp [hexEscape, h, hc, throw, throwThe, MonadExceptOf.throw]

theorem hexEscape_grown {count : Nat} (hcount : count ≠ 0) (h : Rests l l') :
    Grown l (fun _ _ => False) (hexEscape ignore count l) (hexEscape ignore count l') := by
  have hsuffix : skip ignore l <:+ l := skip_suffix
  have hskip : Rests (skip ignore l) (skip ignore l') := skip_rests h
  have hhex : (fun c => (hexDigit? c).isSome) ')' = false := by decide
  cases hv : skip ignore l with
  | nil =>
    rw [hv] at hskip
    have hfails : ∃ e, hexEscape ignore count l' = .error e := by
      rcases hskip.nil_inv with hv' | hv'
      · rw [hexEscape_digits hv' (by decide)]
        simp [readRun_closing (p := fun c => (hexDigit? c).isSome) hhex, hcount.symm]
      · exact ⟨.escapeUnfinished, by simp only [hexEscape, hv']; rfl⟩
    obtain ⟨e, he⟩ := hfails
    simp only [hexEscape, hv] at he ⊢
    rw [he]
    exact .failed
  | cons c w =>
    rw [hv] at hskip hsuffix
    obtain ⟨w', hv', hw⟩ := hskip.cons_inv
    by_cases hc : c = '{'
    · subst hc
      obtain ⟨run, m, m', hm, hm', hrest, hleft⟩ :=
        readRun_all_cases (p := fun c => (hexDigit? c).isSome) ignore false hhex hw
      unfold hexEscape
      simp only [hv, hv', hm, hm']
      cases run with
      | nil => exact .failed
      | cons d run =>
        rcases hrest.head_cases (c := '}') (by decide) with ⟨n, n', hm, hm', hn⟩ | ⟨hne, hne'⟩
        · cases hm
          cases hm'
          refine Grown.bind_step fun a _ => .kept ?_ (skip_rests hn)
          exact skip_suffix.trans ((List.suffix_cons _ _).trans
            (hleft.trans ((List.suffix_cons _ _).trans hsuffix)))
        · simpa [hne, hne'] using .failed
    · rw [hexEscape_digits hv hc, hexEscape_digits hv' hc]
      rw [hv'] at hskip
      obtain ⟨hrun, hrest⟩ :=
        readRun_rests (p := fun c => (hexDigit? c).isSome) ignore false count hhex hskip
      simp only [hrun]
      split
      · exact Grown.bind_step fun a _ => .kept (readRun_suffix.trans hsuffix) hrest
      · exact .failed

/-- A word boundary and a brace behind it, of which only the closing can be seen. -/
def LooseBrace (ignore : Bool) (a : Assertion) (l : List Char) : Prop :=
  a = .wordBoundary ∧ ∃ m, l = '{' :: m ∧ skip ignore m = closing

theorem boundaryKind_grown (h : Rests l l') :
    Grown l (LooseBrace ignore) (boundaryKind ignore l) (boundaryKind ignore l') := by
  rcases h.head_cases (c := '{') (by decide) with ⟨m, m', rfl, rfl, hm⟩ | ⟨hne, hne'⟩
  · have hsuffix : skip ignore m <:+ m := skip_suffix
    have hskip : Rests (skip ignore m) (skip ignore m') := skip_rests hm
    have hword : (fun c : Char => c.isAlpha || c == '-') ')' = false := by decide
    cases hv : skip ignore m with
    | nil =>
      rw [hv] at hskip
      rcases hskip.nil_inv with hv' | hv'
      · simp only [boundaryKind, hv, hv', closing]
        rw [readRun_closing (p := fun c : Char => c.isAlpha || c == '-') hword]
        exact .astray ⟨rfl, m', rfl, hv'⟩
      · simp only [boundaryKind, hv, hv']
        exact .failed
    | cons c w =>
      rw [hv] at hskip hsuffix
      obtain ⟨w', hv', -⟩ := hskip.cons_inv
      rw [hv'] at hskip
      obtain ⟨run, n, n', hn, hn', hrest, hleft⟩ := readRun_all_cases
        (p := fun c : Char => c.isAlpha || c == '-') ignore false hword hskip
      simp only [boundaryKind, hv, hv', hn, hn']
      cases run with
      | nil => exact .kept List.suffix_rfl h
      | cons d run =>
        rcases hrest.head_cases (c := '}') (by decide) with ⟨k, k', hn, hn', hk⟩ | ⟨hne, hne'⟩
        · cases hn
          cases hn'
          simp only
          have hkeep : k <:+ '{' :: m := (List.suffix_cons _ _).trans
            (hleft.trans (hsuffix.trans (List.suffix_cons _ _)))
          generalize String.ofList (d :: run) = word
          split
          · exact .kept hkeep hk
          · exact .kept hkeep hk
          · exact .kept hkeep hk
          · exact .kept hkeep hk
          · exact .failed
        · simpa [hne, hne'] using .failed
  · have hplain (s : List Char) (hs : ∀ m, s ≠ '{' :: m) :
        boundaryKind ignore s = .ok (.wordBoundary, s) := by
      simp [boundaryKind]
    rw [hplain l hne, hplain l' hne']
    exact .kept List.suffix_rfl h

/-- A primitive that is read only with the closing: a parenthesis that stands for itself, or a loose
brace behind a word boundary. -/
def LostPrimitive (ignore : Bool) (p : Primitive) (l : List Char) : Prop :=
  l = ['$'] ∨ ∃ a, p = .assertion a ∧ LooseBrace ignore a l

theorem escape_grown (h : Rests l l') :
    Grown l (LostPrimitive ignore) (escape ignore l) (escape ignore l') := by
  cases l with
  | nil =>
    rcases h.nil_inv with rfl | rfl
    · exact .astray (.inl rfl)
    · exact .failed
  | cons c w =>
    obtain ⟨w', rfl, hw⟩ := h.cons_inv
    have hkeep (p : Primitive) :
        Grown (c :: w) (LostPrimitive ignore) (.ok (p, w)) (.ok (p, w')) :=
      .kept (List.suffix_cons c w) hw
    have hhex (f : Char → Primitive) {count : Nat} (hcount : count ≠ 0) :
        Grown (c :: w) (LostPrimitive ignore)
          ((hexEscape ignore count w).map fun r => (f r.1, r.2))
          ((hexEscape ignore count w').map fun r => (f r.1, r.2)) :=
      ((hexEscape_grown hcount hw).map f fun _ _ => False.elim).of_suffix (List.suffix_cons c w)
    have hboundary : Grown (c :: w) (LostPrimitive ignore)
        ((boundaryKind ignore w).map fun r => (.assertion r.1, r.2))
        ((boundaryKind ignore w').map fun r => (.assertion r.1, r.2)) :=
      ((boundaryKind_grown hw).map _ fun a _ h => .inr ⟨a, rfl, h⟩).of_suffix
        (List.suffix_cons c w)
    have hbyte : ((skip ignore w').head? != some '{') = ((skip ignore w).head? != some '{') := by
      rw [Bool.eq_iff_iff, bne_iff_ne, bne_iff_ne, Ne, Ne, (skip_rests hw).head?_eq_iff (by decide)]
    simp only [escape, hbyte]
    split <;> try first | exact hkeep _ | exact .failed | exact hboundary
    · exact hhex (.literal · ((skip ignore w).head? != some '{')) (by decide)
    · exact hhex (.literal · false) (by decide)
    · exact hhex (.literal · false) (by decide)
    · split_ifs
      · exact .failed
      · exact hkeep _
      · exact .failed

theorem primitive_grown (c : Char) (h : Rests l l') :
    Grown l (LostPrimitive ignore) (primitive ignore (c :: l)) (primitive ignore (c :: l')) := by
  simp only [primitive]
  split
  · exact escape_grown h
  · exact .kept List.suffix_rfl h
  · exact .kept List.suffix_rfl h
  · exact .kept List.suffix_rfl h
  · exact .kept List.suffix_rfl h

end Escapes

end RecordQuery.Regex
