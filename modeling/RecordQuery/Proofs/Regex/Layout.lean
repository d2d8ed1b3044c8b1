import RecordQuery.Proofs.Regex.Reading

/-!
# Patterns without white space

In a text without white space and without number signs there is nothing to ignore. So it reads as
the same tree whether white space is ignored or not, and wherever that changes.
-/

namespace RecordQuery.Regex

/-- No white space, and no start of a comment. -/
def Plain (l : List Char) : Prop := ∀ c ∈ l, Unicode.isWhiteSpace c = false ∧ c ≠ '#'

theorem Plain.of_suffix {l m : List Char} (h : Plain l) (hm : m <:+ l) : Plain m :=
  fun c hc => h c (hm.mem hc)

theorem Plain.tail {c : Char} {l : List Char} (h : Plain (c :: l)) : Plain l :=
  h.of_suffix (List.suffix_cons c l)

variable {ignore : Bool} {l : List Char}

/-! ## Primitives -/

theorem readRun_of_plain (h : Plain l) (p : Char → Bool) (limit : Nat) :
    readRun ignore p limit false l = readRun false p limit false l := by
  induction l generalizing limit with
  | nil => rfl
  | cons c l ih =>
    obtain ⟨hspace, hsign⟩ := h c List.mem_cons_self
    simp only [readRun, hspace, beq_false_of_ne hsign, Bool.and_false, ih h.tail,
      Bool.false_eq_true, if_false]

theorem skip_of_plain (h : Plain l) : skip ignore l = l := by
  rw [skip, readRun_of_plain h]
  exact skip_visible l

theorem hexEscape_of_plain (h : Plain l) (count : Nat) :
    hexEscape ignore count l = hexEscape false count l := by
  unfold hexEscape
  simp only [skip_of_plain h]
  split
  · rfl
  · next rest =>
    rw [readRun_of_plain h.tail]
    have hrest :
        (readRun false (fun c => (hexDigit? c).isSome) rest.length false rest).2 <:+ rest :=
      readRun_suffix
    split
    · rfl
    · next run m _ heq =>
      rw [heq] at hrest
      have hm : Plain m := h.tail.of_suffix ((List.suffix_cons _ m).trans hrest)
      rw [skip_of_plain hm, skip_of_plain hm]
    · rfl
  · rw [readRun_of_plain h]

theorem boundaryKind_of_plain (h : Plain l) : boundaryKind ignore l = boundaryKind false l := by
  unfold boundaryKind
  split
  · simp only [skip_of_plain h.tail]
    split
    · rfl
    · rw [readRun_of_plain h.tail]
  · rfl

theorem escape_of_plain (h : Plain l) : escape ignore l = escape false l := by
  cases l with
  | nil => rfl
  | cons c l =>
    have hrest := h.tail
    simp only [escape, hexEscape_of_plain hrest, boundaryKind_of_plain hrest, skip_of_plain hrest]

theorem primitive_of_plain (h : Plain l) : primitive ignore l = primitive false l := by
  cases l with
  | nil => rfl
  | cons c l => simp only [primitive, escape_of_plain h.tail]

/-! ## Classes -/

theorem insideClass_eq_ok {l m : List Char} (h : insideClass l = .ok m) : m = l := by
  cases l <;> cases h
  rfl

theorem openFrame_of_plain (h : Plain l) (negated : Bool) :
    openFrame ignore negated l = openFrame false negated l := by
  unfold openFrame
  have hrest : (readRun false (· == '-') l.length false l).2 <:+ l := readRun_suffix
  simp only [readRun_of_plain h]
  refine bind_congr_of_ok fun m hm => ?_
  rw [insideClass_eq_ok hm]
  split
  · next m heq _ =>
    rw [heq] at hrest
    have hm : Plain m := h.of_suffix ((List.suffix_cons _ m).trans hrest)
    rw [skip_of_plain hm, skip_of_plain hm]
  · rfl

theorem openClass_of_plain (h : Plain l) : openClass ignore l = openClass false l := by
  rw [openClass_eq, openClass_eq]
  simp only [skip_of_plain h]
  refine bind_congr_of_ok fun m hm => ?_
  rw [insideClass_eq_ok hm]
  unfold openVisible
  split
  · next m =>
    rw [skip_of_plain h.tail, skip_of_plain h.tail]
    refine bind_congr_of_ok fun m hm => ?_
    rw [insideClass_eq_ok hm]
    exact openFrame_of_plain h.tail true
  · exact openFrame_of_plain h false

theorem classItem_of_plain (h : Plain l) : classItem ignore l = classItem false l := by
  unfold classItem
  split
  · rfl
  · exact escape_of_plain h.tail
  · rfl

theorem peekPast_of_plain (h : Plain l) : peekPast ignore l = peekPast false l := by
  cases ignore with
  | false => rfl
  | true =>
    rcases l with _ | ⟨c, _ | ⟨d, l⟩⟩
    · rfl
    · rfl
    · obtain ⟨hspace, hsign⟩ := h.tail d List.mem_cons_self
      simp [peekPast, hspace, hsign]

theorem classRange_of_plain (h : Plain l) : classRange ignore l = classRange false l := by
  rw [classRange_eq, classRange_eq]
  simp only [classItem_of_plain h]
  refine bind_congr_of_ok fun r hr => ?_
  have hitem : Plain r.2 :=
    h.of_suffix (((classItem_grown (.before l)).suffix hr).trans (List.tail_suffix l))
  simp only [skip_of_plain hitem]
  refine bind_congr_of_ok fun m hm => ?_
  have hnone : noRange ignore r.2 = noRange false r.2 := by
    rw [noRange, noRange, peekPast_of_plain hitem]
  have htail : Plain r.2.tail := hitem.of_suffix (List.tail_suffix r.2)
  rw [insideClass_eq_ok hm, rangeFrom, rangeFrom, hnone, skip_of_plain htail, skip_of_plain htail]
  split_ifs
  · rfl
  · refine bind_congr_of_ok fun n hn => ?_
    rw [insideClass_eq_ok hn, rangeEnd, rangeEnd, classItem_of_plain htail]

theorem posixClass?_suffix {m : List Char} {item : ClassSet} (h : posixClass? l = some (item, m)) :
    m <:+ l := by
  rcases posixClass?_same (.before l) with ⟨hnone, -⟩ | ⟨item', m', _, hsome, -, -, hm⟩
  · cases hnone.symm.trans h
  · cases hsome.symm.trans h
    exact hm

theorem classFrom_of_plain (h : Plain l) {fuel : Nat} {frame : ClassFrame}
    {outer : List ClassFrame} :
    classFrom ignore fuel frame outer l = classFrom false fuel frame outer l := by
  induction fuel generalizing frame outer l with
  | zero => rfl
  | succ fuel ih =>
    unfold classFrom
    simp only [skip_of_plain h]
    split
    · rfl
    · split
      · next hname => exact ih (h.tail.of_suffix (posixClass?_suffix hname))
      · simp only [openClass_of_plain h.tail]
        refine bind_congr_of_ok fun r hr => ?_
        exact ih (h.tail.of_suffix (openClass_stays.suffix hr))
    · split
      · rfl
      · exact ih h.tail
    · exact ih h.tail.tail
    · exact ih h.tail.tail
    · exact ih h.tail.tail
    · simp only [classRange_of_plain h]
      refine bind_congr_of_ok fun r hr => ?_
      exact ih (h.of_suffix (((classRange_grown (.before _)).suffix hr).trans (List.tail_suffix _)))

theorem bracketed_of_plain (h : Plain l) : bracketed ignore l = bracketed false l := by
  simp only [bracketed, openClass_of_plain h]
  refine bind_congr_of_ok fun r hr => ?_
  exact classFrom_of_plain (h.of_suffix (openClass_stays.suffix hr))

/-! ## Groups and repetitions -/

theorem readOpening_of_plain (h : Plain l) : readOpening ignore l = readOpening false l := by
  simp only [readOpening, skip_of_plain h]

theorem readDecimal_of_plain (h : Plain l) : readDecimal ignore l = readDecimal false l := by
  have hdigits : Plain (l.dropWhile Unicode.isWhiteSpace) := h.of_suffix (List.dropWhile_suffix _)
  simp only [readDecimal, readRun_of_plain hdigits]

theorem upperBound_of_plain (h : Plain l) (min : Nat) :
    upperBound ignore min l = upperBound false min l := by
  unfold upperBound
  split
  · simp only [skip_of_plain h.tail]
    split
    · rfl
    · rw [readDecimal_of_plain h.tail]
  · rfl

theorem closeBounds_of_plain (h : Plain l) (min : Nat) (max : Option Nat) :
    closeBounds ignore min max l = closeBounds false min max l := by
  unfold closeBounds
  split
  · rw [skip_of_plain h.tail, skip_of_plain h.tail]
  · rfl

theorem readBounds_of_plain (h : Plain l) : readBounds ignore l = readBounds false l := by
  rw [readBounds_eq, readBounds_eq, skip_of_plain h, skip_of_plain h, readDecimal_of_plain h]
  split
  · rfl
  · next min _ =>
    have hrest : Plain (readDecimal false l).2 := h.of_suffix readDecimal_suffix
    rw [upperBound_of_plain hrest]
    refine bind_congr_of_ok fun r hr => ?_
    exact closeBounds_of_plain (hrest.of_suffix ((upperBound_grown min (.before _)).suffix hr)) _ _

/-! ## Parts -/

/-- The same state with white space counting everywhere. -/
def ReaderState.blind (st : ReaderState) : ReaderState :=
  { st with ignore := false
            enclosing := st.enclosing.map fun g => { g with ignoreOutside := false } }

/-- What has been read, up to whether white space is ignored from there on. -/
def seen (r : ReaderState × List Char) : ReaderState × List Char := (r.1.blind, r.2)

theorem repetition_blind (st : ReaderState) (min : Nat) (max : Option Nat) (s : List Char) :
    (repetition st min max s).map seen = (repetition st.blind min max s).map seen := by
  rw [repetition_eq, repetition_eq]
  refine map_bind_congr (x := st.level.repeatLast min max _) fun level _ => congrArg Except.ok ?_
  simp [seen, ReaderState.blind]

/-- Where nothing is to be ignored, a part is read the same whether it would be or not. -/
theorem readPart_blind {st : ReaderState} {c : Char} (h : Plain (c :: l)) :
    (readPart st c l).map seen = (readPart st.blind c l).map seen := by
  have hrest := h.tail
  unfold readPart
  split
  · change (readOpening st.ignore l >>= _).map seen = (readOpening false l >>= _).map seen
    rw [readOpening_of_plain hrest]
    refine map_bind_congr fun r _ => ?_
    obtain ⟨o, m⟩ := r
    cases o with
    | group captures change =>
      exact congrArg Except.ok (by simp [seen, ReaderState.blind, ReaderState.enter])
    | flags change => exact congrArg Except.ok (by simp [seen, ReaderState.blind, ReaderState.add])
    | named name =>
      change Except.map seen (if st.names.contains name then _ else _) =
        Except.map seen (if st.names.contains name then _ else _)
      split_ifs
      · rfl
      · exact congrArg Except.ok (by simp [seen, ReaderState.blind, ReaderState.enter])
  · simp only [ReaderState.leave]
    cases hst : st.enclosing with
    | nil => simp [ReaderState.blind, hst, bind, Except.bind, Except.map]
    | cons g enclosing =>
      simp [seen, ReaderState.blind, hst, bind, Except.bind, pure, Except.pure, Except.map]
  · exact congrArg Except.ok (by simp [seen, ReaderState.blind])
  · change (bracketed st.ignore l >>= _).map seen = (bracketed false l >>= _).map seen
    rw [bracketed_of_plain hrest]
    refine map_bind_congr fun r _ => congrArg Except.ok ?_
    simp [seen, ReaderState.blind, ReaderState.add]
  · exact repetition_blind st _ _ l
  · exact repetition_blind st _ _ l
  · exact repetition_blind st _ _ l
  · change (readBounds st.ignore l >>= _).map seen = (readBounds false l >>= _).map seen
    rw [readBounds_of_plain hrest]
    exact map_bind_congr fun r _ => repetition_blind st _ _ r.2
  · change (primitive st.ignore (c :: l) >>= _).map seen =
      (primitive false (c :: l) >>= _).map seen
    rw [primitive_of_plain h]
    refine map_bind_congr fun r _ => congrArg Except.ok ?_
    simp [seen, ReaderState.blind, ReaderState.add]

theorem readParts_nil {n : Nat} {st st' : ReaderState} (hst : st.blind = st'.blind) :
    readParts (n + 1) st [] = readParts (n + 1) st' [] := by
  obtain ⟨level, ignore, enclosing, names⟩ := st
  obtain ⟨level', ignore', enclosing', names'⟩ := st'
  simp only [ReaderState.blind, ReaderState.mk.injEq, true_and] at hst
  obtain ⟨rfl, henclosing, -⟩ := hst
  cases enclosing <;> cases enclosing' <;> simp at henclosing <;> rfl

theorem readParts_blind {n : Nat} {st st' : ReaderState} (h : Plain l)
    (hst : st.blind = st'.blind) : readParts n st l = readParts n st' l := by
  induction n generalizing st st' l with
  | zero => rfl
  | succ n ih =>
    cases l with
    | nil => exact readParts_nil hst
    | cons c l =>
      have hpart : (readPart st c l).map seen = (readPart st'.blind c l).map seen :=
        hst ▸ readPart_blind h
      rw [← readPart_blind h] at hpart
      rw [readParts_cons (skip_of_plain h), readParts_cons (skip_of_plain h)]
      cases hread : readPart st c l with
      | error e =>
        rw [hread] at hpart
        rw [map_eq_error_iff.mp hpart.symm]
      | ok r =>
        rw [hread] at hpart
        obtain ⟨r', hread', heq⟩ := map_eq_ok_iff.mp hpart.symm
        obtain ⟨hstate, hleft⟩ := Prod.mk.inj heq
        have hplain : Plain r.2 := h.tail.of_suffix (readPart_suffix hread)
        rw [hread']
        change readParts n r.1 r.2 = readParts n r'.1 r'.2
        rw [hleft]
        exact ih hplain hstate.symm

theorem parse_of_plain {s : String} (h : Plain s.toList) (ignore : Bool) :
    Tree.parse ignore s = Tree.parse false s :=
  readParts_blind h rfl

end RecordQuery.Regex
