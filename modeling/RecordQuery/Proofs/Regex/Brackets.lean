import RecordQuery.Proofs.Regex.Growth
import RecordQuery.Regex.Bracket

/-!
# Bracketed classes with a closing behind them

A closing holds no bracket, so a class that is still open at the end of a text is open behind the
closing as well, and a class that ends is read the same with the closing behind it.
-/

namespace RecordQuery.Regex

/-! ## Readers inside a class -/

/-- A reader that leaves of the closing only a part, where it goes on into it. -/
def StaysInClosing {α : Type} (f : List Char → Except SyntaxError (α × List Char)) : Prop :=
  ∀ l l', Rests l l' → Grown l (fun _ m => m <:+ closing) (f l) (f l')

namespace StaysInClosing

variable {α β : Type} {ignore : Bool}

theorem suffix {f : List Char → Except SyntaxError (α × List Char)} (h : StaysInClosing f)
    {l m : List Char} {a : α} (hf : f l = .ok (a, m)) : m <:+ l := by
  have hgrown := h l _ (.before l)
  rw [hf] at hgrown
  generalize f (l ++ closing) = y at hgrown
  cases hgrown with
  | kept hs => exact hs

theorem pure (a : α) : StaysInClosing fun l => .ok (a, l) :=
  fun _ _ hl => .kept List.suffix_rfl hl

theorem skip {f : List Char → Except SyntaxError (α × List Char)} (h : StaysInClosing f) :
    StaysInClosing fun l => f (skip ignore l) :=
  fun _ _ hl => (h _ _ (skip_rests hl)).of_suffix skip_suffix

theorem insideClass {f : List Char → Except SyntaxError (α × List Char)} (h : StaysInClosing f) :
    StaysInClosing fun l => insideClass l >>= f := by
  intro l l' hl
  cases l with
  | cons c w =>
    obtain ⟨w', rfl, -⟩ := hl.cons_inv
    exact h _ _ hl
  | nil =>
    rcases hl.nil_inv with rfl | rfl
    · change Grown [] _ (.error .classUnclosed) (f closing)
      cases hf : f closing with
      | error e => exact .failed
      | ok r => exact .astray (h.suffix hf)
    · exact .failed

end StaysInClosing

/-! ## Opening a class -/

variable {ignore : Bool} {l l' : List Char}

/-- Reads hyphens and a first closing bracket, the last step of opening a class. -/
def openFrame (ignore negated : Bool) (s : List Char) :
    Except SyntaxError (ClassFrame × List Char) := do
  let (hyphens, s) := readRun ignore (· == '-') s.length false s
  let frame := hyphens.foldl (fun f c => f.add (.range c c)) (ClassFrame.mk negated none .empty)
  match ← insideClass s, hyphens with
  | ']' :: rest, [] => return (frame.add (.range ']' ']'), ← insideClass (skip ignore rest))
  | s, _ => return (frame, s)

/-- Reads what follows an opening bracket from its first character on. -/
def openVisible (ignore : Bool) (s : List Char) : Except SyntaxError (ClassFrame × List Char) :=
  match s with
  | '^' :: rest => insideClass (skip ignore rest) >>= openFrame ignore true
  | s => openFrame ignore false s

theorem openVisible_negated (rest : List Char) :
    openVisible ignore ('^' :: rest) = insideClass (skip ignore rest) >>= openFrame ignore true :=
  rfl

theorem openVisible_plain {s : List Char} (h : ∀ m, s ≠ '^' :: m) :
    openVisible ignore s = openFrame ignore false s := by
  simp [openVisible]

theorem openClass_eq :
    openClass ignore = fun s => insideClass (skip ignore s) >>= openVisible ignore := by
  funext s
  unfold openClass
  refine bind_congr fun s => ?_
  split
  · rw [openVisible_negated]
    cases insideClass (skip ignore _) <;> rfl
  · next h =>
    rw [openVisible_plain h]
    rfl

theorem openFrame_stays (negated : Bool) : StaysInClosing (openFrame ignore negated) := by
  intro l l' h
  have hhyphen : (fun c : Char => c == '-') ')' = false := by decide
  obtain ⟨hyphens, n, n', hn, hn', hrest, hleft⟩ :=
    readRun_all_cases (p := fun c : Char => c == '-') ignore false hhyphen h
  simp only [openFrame, hn, hn']
  generalize hyphens.foldl _ (ClassFrame.mk negated none .empty) = frame
  refine Grown.of_suffix (StaysInClosing.insideClass ?_ n n' hrest) hleft
  intro l l' h
  rcases h.head_cases (c := ']') (by decide) with ⟨m, m', rfl, rfl, hm⟩ | ⟨hne, hne'⟩
  · cases hyphens with
    | nil =>
      exact ((StaysInClosing.pure (frame.add (.range ']' ']'))).insideClass.skip m m' hm).of_suffix
        (List.suffix_cons _ m)
    | cons c hyphens => exact .kept List.suffix_rfl h
  · simpa [hne, hne', Pure.pure, Except.pure] using StaysInClosing.pure frame l l' h

theorem openClass_stays : StaysInClosing (openClass ignore) := by
  have hvisible : StaysInClosing (openVisible ignore) := by
    intro l l' h
    rcases h.head_cases (c := '^') (by decide) with ⟨m, m', rfl, rfl, hm⟩ | ⟨hne, hne'⟩
    · rw [openVisible_negated, openVisible_negated]
      exact ((openFrame_stays true).insideClass.skip m m' hm).of_suffix (List.suffix_cons _ m)
    · rw [openVisible_plain hne, openVisible_plain hne']
      exact openFrame_stays false l l' h
  rw [openClass_eq]
  exact hvisible.insideClass.skip

/-! ## Items -/

/-- Reads the name of a class up to its second colon. -/
def posixName? (negated : Bool) (s : List Char) : Option (ClassSet × List Char) :=
  match s.dropWhile (· != ':') with
  | ':' :: ']' :: rest =>
    (Posix.ofName? (String.ofList (s.takeWhile (· != ':')))).map fun p => (.posix p negated, rest)
  | _ => none

/-- Two readings of a class with a name. Both find it or neither does. -/
def SameName (s : List Char) (x y : Option (ClassSet × List Char)) : Prop :=
  (x = none ∧ y = none) ∨
    ∃ item m m', x = some (item, m) ∧ y = some (item, m') ∧ Rests m m' ∧ m <:+ s

theorem posixName?_same (negated : Bool) (h : Rests l l') :
    SameName l (posixName? negated l) (posixName? negated l') := by
  have hsuffix : l.dropWhile (· != ':') <:+ l := List.dropWhile_suffix _
  unfold posixName?
  rcases h.delimiter_cases (c := ':') (by decide) with ⟨hl, hl'⟩ | ⟨m, m', hl, hl', hm, hname⟩
  · rw [hl, hl']
    exact .inl ⟨rfl, rfl⟩
  · rw [hl, hl', hname]
    rw [hl] at hsuffix
    rcases hm.head_cases (c := ']') (by decide) with ⟨n, n', rfl, rfl, hn⟩ | ⟨hne, hne'⟩
    · cases Posix.ofName? (String.ofList (l.takeWhile (· != ':'))) with
      | none => exact .inl ⟨rfl, rfl⟩
      | some p =>
        exact .inr ⟨.posix p negated, n, n', rfl, rfl, hn,
          (List.suffix_cons _ n).trans ((List.suffix_cons _ _).trans hsuffix)⟩
    · exact .inl (by simp [hne, hne'])

theorem SameName.of_suffix {s s' : List Char} {x y : Option (ClassSet × List Char)}
    (h : SameName s x y) (hs : s <:+ s') : SameName s' x y := by
  rcases h with h | ⟨item, m, m', hx, hy, hm, hsuffix⟩
  · exact .inl h
  · exact .inr ⟨item, m, m', hx, hy, hm, hsuffix.trans hs⟩

theorem posixClass?_negated (s : List Char) :
    posixClass? (':' :: '^' :: s) = posixName? true s := rfl

theorem posixClass?_plain {s : List Char} (h : ∀ m, s ≠ '^' :: m) :
    posixClass? (':' :: s) = posixName? false s := by
  simp only [posixClass?]
  rfl

theorem posixClass?_same (h : Rests l l') : SameName l (posixClass? l) (posixClass? l') := by
  rcases h.head_cases (c := ':') (by decide) with ⟨m, m', rfl, rfl, hm⟩ | ⟨hne, hne'⟩
  · rcases hm.head_cases (c := '^') (by decide) with ⟨n, n', rfl, rfl, hn⟩ | ⟨hne, hne'⟩
    · rw [posixClass?_negated, posixClass?_negated]
      exact (posixName?_same true hn).of_suffix
        ((List.suffix_cons _ n).trans (List.suffix_cons _ _))
    · rw [posixClass?_plain hne, posixClass?_plain hne']
      exact (posixName?_same false hm).of_suffix (List.suffix_cons _ m)
  · have hnone (s : List Char) (hs : ∀ m, s ≠ ':' :: m) : posixClass? s = none := by
      simp [posixClass?]
    exact .inl ⟨hnone l hne, hnone l' hne'⟩

theorem classItem_grown (h : Rests l l') :
    Grown l.tail (LostPrimitive ignore) (classItem ignore l) (classItem ignore l') := by
  cases l with
  | nil =>
    rcases h.nil_inv with rfl | rfl
    · exact .astray (.inl rfl)
    · exact .failed
  | cons c w =>
    obtain ⟨w', rfl, hw⟩ := h.cons_inv
    by_cases hc : c = '\\'
    · subst hc
      exact escape_grown hw
    · have hplain (s : List Char) : classItem ignore (c :: s) = .ok (.literal c false, s) := by
        simp [classItem]
      rw [hplain, hplain]
      exact .kept List.suffix_rfl hw

/-- Reads the end of a range, after its hyphen. -/
def rangeEnd (ignore : Bool) (first : Primitive) (s : List Char) :
    Except SyntaxError (ClassSet × List Char) := do
  let (last, s) ← classItem ignore s
  match first, last with
  | .literal a _, .literal b _ => if a ≤ b then return (.range a b, s) else throw .classRange
  | _, _ => throw .classRange

/-- An item that is no start of a range. -/
def oneItem (first : Primitive) (s : List Char) : Except SyntaxError (ClassSet × List Char) :=
  match first with
  | .literal c _ => .ok (.range c c, s)
  | .perl p negated => .ok (.perl p negated, s)
  | _ => .error .classEscape

/-- Whether what follows an item makes no range of it. -/
def noRange (ignore : Bool) (s : List Char) : Bool :=
  s.head? != some '-' || peekPast ignore s == some ']' || peekPast ignore s == some '-'

/-- Reads what follows the first item, up to the end of a range. -/
def rangeFrom (ignore : Bool) (first : Primitive) (s : List Char) :
    Except SyntaxError (ClassSet × List Char) :=
  if noRange ignore s then oneItem first s
  else insideClass (skip ignore s.tail) >>= rangeEnd ignore first

theorem classRange_eq : classRange ignore = fun s => classItem ignore s >>= fun r =>
    insideClass (skip ignore r.2) >>= rangeFrom ignore r.1 := by
  funext s
  unfold classRange
  refine bind_congr fun r => ?_
  rfl

theorem rangeEnd_stays (first : Primitive) : StaysInClosing (rangeEnd ignore first) := by
  intro l l' h
  unfold rangeEnd
  refine ((classItem_grown h).of_suffix (List.tail_suffix l)).bind (fun last m m' hm hrests => ?_)
    fun last m b n hlost hg => ?_
  · simp only
    split
    · split_ifs
      · exact .kept hm hrests
      · exact .failed
    · exact .failed
  · rcases hlost with rfl | ⟨a, rfl, -⟩
    · simp only at hg
      split at hg
      · split_ifs at hg
        cases hg
        exact List.suffix_cons _ _
      · cases hg
    · cases first <;> cases hg

theorem oneItem_stays (first : Primitive) : StaysInClosing (oneItem first) := by
  intro l l' h
  unfold oneItem
  split
  · exact .kept List.suffix_rfl h
  · exact .kept List.suffix_rfl h
  · exact .failed

/-- What is visible past white space and one number sign. -/
def pastSign (s : List Char) : List Char :=
  let visible := s.dropWhile Unicode.isWhiteSpace
  match visible with
  | '#' :: more => more.dropWhile Unicode.isWhiteSpace
  | _ => visible

theorem pastSign_rests (h : Rests l l') : Rests (pastSign l) (pastSign l') := by
  have hspace : Unicode.isWhiteSpace ')' = false := by decide
  have hvisible := h.dropWhile hspace
  unfold pastSign
  rcases hvisible.head_cases (c := '#') (by decide) with ⟨m, m', hl, hl', hm⟩ | ⟨hne, hne'⟩
  · rw [hl, hl']
    exact hm.dropWhile hspace
  · simpa [hne, hne'] using hvisible

theorem peekPast_eq_iff {b c : Char} {s : List Char} (hspace : Unicode.isWhiteSpace b = false)
    (hsign : b ≠ '#') :
    peekPast ignore (c :: s) = some b ↔
      if ignore then (pastSign s).head? = some b else s.head? = some b := by
  cases ignore with
  | false => rfl
  | true =>
    have hpeek : peekPast true (c :: s) = ((pastSign s).head? <|> s.head?) := rfl
    rw [hpeek, if_pos rfl]
    cases hpast : pastSign s with
    | cons d m => rfl
    | nil =>
      refine ⟨fun h => ?_, fun h => nomatch h⟩
      obtain ⟨m, rfl⟩ : ∃ m, s = b :: m := by
        cases s with
        | nil => cases h
        | cons d m =>
          cases h
          exact ⟨m, rfl⟩
      simp [pastSign, hspace, hsign] at hpast

theorem noRange_of_rests (h : Rests l l') : noRange ignore l' = noRange ignore l := by
  unfold noRange
  rcases h.head_cases (c := '-') (by decide) with ⟨m, m', rfl, rfl, hm⟩ | ⟨hne, hne'⟩
  · have hnext (b : Char) (hb : b = ']' ∨ b = '-') :
        (peekPast ignore ('-' :: m') == some b) = (peekPast ignore ('-' :: m) == some b) := by
      rw [Bool.eq_iff_iff, beq_iff_eq, beq_iff_eq]
      have hclosing : b ≠ ')' := by rcases hb with rfl | rfl <;> decide
      have hspace : Unicode.isWhiteSpace b = false := by rcases hb with rfl | rfl <;> decide
      have hsign : b ≠ '#' := by rcases hb with rfl | rfl <;> decide
      rw [peekPast_eq_iff hspace hsign, peekPast_eq_iff hspace hsign, hm.head?_eq_iff hclosing,
        (pastSign_rests hm).head?_eq_iff hclosing]
    rw [hnext _ (.inl rfl), hnext _ (.inr rfl)]
    rfl
  · have hhead (s : List Char) (hs : ∀ m, s ≠ '-' :: m) : (s.head? != some '-') = true := by
      cases s with
      | nil => rfl
      | cons c s => simpa using fun hc => hs s (by rw [hc])
    rw [hhead l hne, hhead l' hne', Bool.true_or, Bool.true_or]
    rfl

theorem exists_hyphen {s : List Char} (h : ¬noRange ignore s = true) : ∃ m, s = '-' :: m := by
  have hhead : s.head? = some '-' := by
    by_contra hne
    exact h (by simp [noRange, hne])
  exact List.head?_eq_some_iff.mp hhead

theorem rangeFrom_stays (first : Primitive) : StaysInClosing (rangeFrom ignore first) := by
  intro l l' h
  have hsame : noRange ignore l' = noRange ignore l := noRange_of_rests h
  unfold rangeFrom
  rw [hsame]
  split_ifs with hrange
  · exact oneItem_stays first l l' h
  · obtain ⟨m, rfl⟩ := exists_hyphen hrange
    obtain ⟨m', rfl, hm⟩ := h.cons_inv
    exact ((rangeEnd_stays first).insideClass.skip m m' hm).of_suffix (List.suffix_cons _ m)

theorem rangeFrom_assertion (a : Assertion) (s : List Char) :
    ∃ e, rangeFrom ignore (.assertion a) s = .error e := by
  unfold rangeFrom
  split_ifs
  · exact ⟨_, rfl⟩
  · cases insideClass (skip ignore s.tail) with
    | error e => exact ⟨e, rfl⟩
    | ok s =>
      change ∃ e, rangeEnd ignore (.assertion a) s = .error e
      unfold rangeEnd
      cases classItem ignore s with
      | error e => exact ⟨e, rfl⟩
      | ok r => exact ⟨.classRange, rfl⟩

theorem classRange_grown (h : Rests l l') :
    Grown l.tail (fun _ m => m <:+ closing) (classRange ignore l) (classRange ignore l') := by
  rw [classRange_eq]
  have hafter (first : Primitive) :
      StaysInClosing fun s => insideClass (skip ignore s) >>= rangeFrom ignore first :=
    (rangeFrom_stays first).insideClass.skip
  refine (classItem_grown h).bind (fun first m m' hm hrests => ?_)
    fun first m b n hlost hg => ?_
  · exact (hafter first m m' hrests).of_suffix hm
  · rcases hlost with rfl | ⟨a, rfl, -⟩
    · exact ((hafter first).suffix hg).trans (List.suffix_cons _ _)
    · simp only at hg
      cases hinside : insideClass (skip ignore m) with
      | error e =>
        rw [hinside] at hg
        cases hg
      | ok s =>
        rw [hinside] at hg
        change rangeFrom ignore (.assertion a) s = _ at hg
        obtain ⟨e, he⟩ := rangeFrom_assertion a s
        cases he.symm.trans hg

/-! ## Classes -/

section Classes

variable {fuel : Nat} {frame : ClassFrame} {outer : List ClassFrame}

theorem skip_closing : skip ignore closing = closing :=
  congrArg Prod.snd (readRun_closing rfl)

theorem classFrom_congr (h : skip ignore l = skip ignore l') :
    classFrom ignore fuel frame outer l = classFrom ignore fuel frame outer l' := by
  cases fuel with
  | zero => rfl
  | succ fuel => simp only [classFrom, h]

theorem classFrom_item {s v : List Char} (hs : skip ignore s = v) (hne : v ≠ [])
    (hopen : ∀ m, v ≠ '[' :: m) (hclose : ∀ m, v ≠ ']' :: m) (hinter : ∀ m, v ≠ '&' :: '&' :: m)
    (hdiff : ∀ m, v ≠ '-' :: '-' :: m) (hsymm : ∀ m, v ≠ '~' :: '~' :: m) :
    classFrom ignore (fuel + 1) frame outer s =
      classRange ignore v >>= fun r => classFrom ignore fuel (frame.add r.1) outer r.2 := by
  simp only [classFrom, hs]

theorem classFrom_of_suffix (h : l <:+ closing) :
    ∃ e, classFrom ignore fuel frame outer l = .error e := by
  have hnil (fuel : Nat) (frame : ClassFrame) :
      classFrom ignore fuel frame outer [] = .error .classUnclosed := by
    cases fuel <;> rfl
  have hanchor (fuel : Nat) (frame : ClassFrame) :
      ∃ e, classFrom ignore fuel frame outer ['$'] = .error e := by
    cases fuel with
    | zero => exact ⟨_, rfl⟩
    | succ fuel =>
      have hitem : classRange ignore ['$'] = .error .classUnclosed := by cases ignore <;> rfl
      have hskip : skip ignore ['$'] = ['$'] := by cases ignore <;> rfl
      rw [classFrom_item hskip (by simp) (by simp) (by simp) (by simp) (by simp) (by simp), hitem]
      exact ⟨_, rfl⟩
  have hparts : l = closing ∨ l = ['$'] ∨ l = [] := by
    simpa [closing, List.suffix_cons_iff] using h
  rcases hparts with rfl | rfl | rfl
  · cases fuel with
    | zero => exact ⟨_, rfl⟩
    | succ fuel =>
      have hitem : classRange ignore closing = .ok (.range ')' ')', ['$']) := by
        cases ignore <;> rfl
      rw [classFrom_item skip_closing (by simp [closing]) (by simp [closing]) (by simp [closing])
        (by simp [closing]) (by simp [closing]) (by simp [closing]), hitem]
      exact hanchor fuel _
  · exact hanchor fuel frame
  · exact ⟨_, hnil fuel frame⟩

theorem classFrom_of_skip_nil (h : Rests l l') (hnil : skip ignore l = []) :
    (∃ e, classFrom ignore fuel frame outer l = .error e) ∧
      ∃ e, classFrom ignore fuel frame outer l' = .error e := by
  have hskip : Rests (skip ignore l) (skip ignore l') := skip_rests h
  have hempty {s : List Char} (hs : skip ignore s = []) :
      ∃ e, classFrom ignore fuel frame outer s = .error e := by
    rw [classFrom_congr (hs.trans (show skip ignore [] = [] from rfl).symm)]
    exact classFrom_of_suffix (List.nil_suffix)
  rw [hnil] at hskip
  refine ⟨hempty hnil, ?_⟩
  rcases hskip.nil_inv with hclosing | hswallowed
  · rw [classFrom_congr (hclosing.trans skip_closing.symm)]
    exact classFrom_of_suffix List.suffix_rfl
  · exact hempty hswallowed

/-- A class is read in the same rounds with the closing behind it. -/
theorem classFrom_grown (k : Nat) (h : Rests l l') (hfuel : l.length < fuel) :
    Grown l (fun _ _ => False) (classFrom ignore fuel frame outer l)
      (classFrom ignore (fuel + k) frame outer l') := by
  induction fuel generalizing frame outer l l' with
  | zero => exact absurd hfuel (Nat.not_lt_zero _)
  | succ fuel ih =>
    have hskip : Rests (skip ignore l) (skip ignore l') := skip_rests h
    have hsuffix : skip ignore l <:+ l := skip_suffix
    rw [Nat.add_right_comm]
    generalize hv : skip ignore l = v at *
    generalize hv' : skip ignore l' = v' at *
    by_cases hnil : v = []
    · obtain ⟨e, he⟩ := (classFrom_of_skip_nil h (hv.trans hnil)).1
      obtain ⟨e', he'⟩ := (classFrom_of_skip_nil h (hv.trans hnil)).2
      rw [he, he']
      exact .failed
    refine Grown.of_suffix ?_ ((List.tail_suffix v).trans hsuffix)
    have hnext {m m' : List Char} {frame : ClassFrame} {outer : List ClassFrame}
        (hm : Rests m m') (hleft : m <:+ v.tail) :
        Grown v.tail (fun _ _ => False) (classFrom ignore fuel frame outer m)
          (classFrom ignore (fuel + k) frame outer m') := by
      have hlength := hleft.length_le
      have hvisible := hsuffix.length_le
      have hpos := List.length_pos_iff.mpr hnil
      rw [List.length_tail] at hlength
      exact (ih hm (by omega)).of_suffix hleft
    have hthen {α : Type} {x y : Except SyntaxError (α × List Char)} (add : α → ClassFrame)
        {outer : List ClassFrame} (hx : Grown v.tail (fun _ m => m <:+ closing) x y) :
        Grown v.tail (fun _ _ => False)
          (x >>= fun r => classFrom ignore fuel (add r.1) outer r.2)
          (y >>= fun r => classFrom ignore (fuel + k) (add r.1) outer r.2) := by
      refine hx.bind (fun a m m' hm hrests => hnext hrests hm) fun a m t n hlost hg => ?_
      obtain ⟨e, he⟩ := classFrom_of_suffix hlost
      cases he.symm.trans hg
    rcases hskip.head_cases (c := '[') (by decide) with ⟨m, m', rfl, rfl, hm⟩ | ⟨hopen, hopen'⟩
    · simp only [classFrom, hv, hv']
      rcases posixClass?_same hm with ⟨hp, hp'⟩ | ⟨item, n, n', hp, hp', hn, hleft⟩
      · simp only [hp, hp']
        exact hthen id (openClass_stays m m' hm)
      · simp only [hp, hp']
        exact hnext hn hleft
    rcases hskip.head_cases (c := ']') (by decide) with ⟨m, m', rfl, rfl, hm⟩ | ⟨hclose, hclose'⟩
    · simp only [classFrom, hv, hv']
      cases outer with
      | nil => exact .kept List.suffix_rfl hm
      | cons next outer => exact hnext hm List.suffix_rfl
    rcases hskip.pair_cases (c := '&') (by decide) with ⟨m, m', rfl, rfl, hm⟩ | ⟨hinter, hinter'⟩
    · simp only [classFrom, hv, hv']
      exact hnext hm (List.suffix_cons _ m)
    rcases hskip.pair_cases (c := '-') (by decide) with ⟨m, m', rfl, rfl, hm⟩ | ⟨hdiff, hdiff'⟩
    · simp only [classFrom, hv, hv']
      exact hnext hm (List.suffix_cons _ m)
    rcases hskip.pair_cases (c := '~') (by decide) with ⟨m, m', rfl, rfl, hm⟩ | ⟨hsymm, hsymm'⟩
    · simp only [classFrom, hv, hv']
      exact hnext hm (List.suffix_cons _ m)
    have hnil' : v' ≠ [] := fun h => hnil (List.length_eq_zero_iff.mp (by
      simpa [h] using hskip.length_le))
    rw [classFrom_item hv hnil hopen hclose hinter hdiff hsymm,
      classFrom_item hv' hnil' hopen' hclose' hinter' hdiff' hsymm']
    exact hthen frame.add (classRange_grown hskip)

end Classes

theorem bracketed_grown (h : Rests l l') :
    Grown l (fun _ _ => False) (bracketed ignore l) (bracketed ignore l') := by
  refine (openClass_stays l l' h).bind (fun frame m m' hm hrests => ?_)
    fun frame m t n hlost hg => ?_
  · have hlength := hrests.length_le
    have hrounds : Grown m (fun _ _ => False) (classFrom ignore (m.length + 1) frame [] m)
        (classFrom ignore (m.length + 1 + (m'.length - m.length)) frame [] m') :=
      classFrom_grown _ hrests (Nat.lt_succ_self _)
    rw [show m.length + 1 + (m'.length - m.length) = m'.length + 1 by omega] at hrounds
    exact hrounds.of_suffix hm
  · obtain ⟨e, he⟩ := classFrom_of_suffix hlost
    cases he.symm.trans hg

end RecordQuery.Regex
