import Mathlib.Data.List.TakeWhile
import RecordQuery.Unicode.Lowercase

/-!
# Lower case in context

Lower-casing goes character by character but for the capital sigma, whose form depends on whether a
word ends there. So the lower-case form of a part of a text is its form within the text, unless a
capital sigma that ends or begins the part finds itself inside a word.
-/

namespace RecordQuery.Unicode

/-- Lower-cases a part of a text that stands after `before`, nearest character first, and ahead of
`after`. -/
def lowercaseBetween (before after : List Char) : List Char → List Char
  | [] => []
  | c :: rest =>
    (if c == 'Σ' then [lowercaseSigma before (rest ++ after)] else lowercaseChar c)
      ++ lowercaseBetween (c :: before) after rest

theorem lowercaseAfter_append (before s t : List Char) :
    lowercaseAfter before (s ++ t) =
      lowercaseBetween before t s ++ lowercaseAfter (s.reverse ++ before) t := by
  induction s generalizing before with
  | nil => rfl
  | cons c s ih =>
    rw [List.cons_append, lowercaseAfter, lowercaseBetween, ih, List.append_assoc]
    simp

theorem lowercaseBetween_nil (before s : List Char) :
    lowercaseBetween before [] s = lowercaseAfter before s := by
  simpa [lowercaseAfter] using (lowercaseAfter_append before s []).symm

theorem lowercase_append (s t : List Char) :
    lowercase (s ++ t) = lowercaseBetween [] t s ++ lowercaseAfter s.reverse t := by
  rw [lowercase, lowercaseAfter_append, List.append_nil]

theorem length_lowercaseBetween (before after before' after' s : List Char) :
    (lowercaseBetween before after s).length = (lowercaseBetween before' after' s).length := by
  induction s generalizing before before' with
  | nil => rfl
  | cons c s ih =>
    rw [lowercaseBetween, lowercaseBetween, List.length_append, List.length_append,
      ih (c :: before) (c :: before')]
    split <;> rfl

/-- The form of a part depends on its surroundings through its capital sigmas only. -/
theorem lowercaseBetween_eq_iff {before after before' after' s : List Char} :
    lowercaseBetween before after s = lowercaseBetween before' after' s ↔
      ∀ u v, s = u ++ 'Σ' :: v → lowercaseSigma (u.reverse ++ before) (v ++ after) =
        lowercaseSigma (u.reverse ++ before') (v ++ after') := by
  induction s generalizing before before' with
  | nil => simp [lowercaseBetween]
  | cons c s ih =>
    have hcons (P : List Char → List Char → Prop) :
        (∀ u v, c :: s = u ++ 'Σ' :: v → P u v) ↔
          (c = 'Σ' → P [] s) ∧ ∀ u v, s = u ++ 'Σ' :: v → P (c :: u) v := by
      refine ⟨fun h => ⟨fun hc => h [] s (by rw [hc]; rfl), fun u v hs => h _ _ (by rw [hs]; rfl)⟩,
        fun h u v hsplit => ?_⟩
      cases u with
      | nil =>
        cases hsplit
        exact h.1 rfl
      | cons d u =>
        cases hsplit
        exact h.2 u v rfl
    rw [hcons, lowercaseBetween, lowercaseBetween]
    simp only [List.reverse_cons, List.append_assoc, List.singleton_append]
    rw [← ih]
    by_cases hc : c = 'Σ'
    · simp [hc]
    · simp [hc]

/-! ## Words -/

theorem startsCased_append (s t : List Char) :
    startsCased (s ++ t) = if s.all isCaseIgnorable then startsCased t else startsCased s := by
  unfold startsCased
  induction s with
  | nil => rfl
  | cons c s ih =>
    rw [List.cons_append, List.dropWhile_cons, List.dropWhile_cons, List.all_cons]
    cases isCaseIgnorable c with
    | true => simpa using ih
    | false => rfl

theorem startsCased_of_all {s : List Char} (h : s.all isCaseIgnorable = true) :
    startsCased s = false := by
  unfold startsCased
  rw [List.dropWhile_eq_nil_iff.mpr (List.all_eq_true.mp h)]

theorem lowercaseSigma_eq_iff {before after before' after' : List Char} :
    lowercaseSigma before after = lowercaseSigma before' after' ↔
      ((startsCased before && !startsCased after) =
        (startsCased before' && !startsCased after')) := by
  unfold lowercaseSigma
  cases startsCased before && !startsCased after <;>
    cases startsCased before' && !startsCased after' <;> simp

/-- A text that ends in a capital sigma, but for case-ignorable characters, after a cased one. -/
def EndsInSigma (x : List Char) : Prop :=
  ∃ u v, x = u ++ 'Σ' :: v ∧ startsCased u.reverse = true ∧ v.all isCaseIgnorable = true

/-- A text that begins with a capital sigma, but for case-ignorable characters, and no cased
character comes next. -/
def BeginsWithSigma (x : List Char) : Prop :=
  ∃ u v, x = u ++ 'Σ' :: v ∧ u.all isCaseIgnorable = true ∧ startsCased v = false

theorem lowercaseBetween_eq_lowercase {before after x : List Char}
    (hafter : ¬(EndsInSigma x ∧ startsCased after = true))
    (hbefore : ¬(BeginsWithSigma x ∧ startsCased before = true)) :
    lowercaseBetween before after x = lowercase x := by
  rw [lowercase, ← lowercaseBetween_nil, lowercaseBetween_eq_iff]
  intro u v hx
  rw [lowercaseSigma_eq_iff, List.append_nil, List.append_nil, startsCased_append,
    startsCased_append, List.all_reverse]
  by_cases hu : u.all isCaseIgnorable = true
  · rw [if_pos hu, startsCased_of_all (List.all_reverse.trans hu)]
    cases hb : startsCased before with
    | false => rfl
    | true =>
      have hv : startsCased v = true := by
        by_contra hv
        exact hbefore ⟨⟨u, v, hx, hu, Bool.eq_false_iff.mpr hv⟩, hb⟩
      have hsome : ¬v.all isCaseIgnorable = true := fun hall => by
        rw [startsCased_of_all hall] at hv
        cases hv
      rw [if_neg hsome, hv]
      rfl
  · rw [if_neg hu]
    by_cases hv : v.all isCaseIgnorable = true
    · rw [if_pos hv, startsCased_of_all hv]
      cases hu' : startsCased u.reverse with
      | false => rfl
      | true =>
        have ha : startsCased after = false :=
          Bool.eq_false_iff.mpr fun ha => hafter ⟨⟨u, v, hx, hu', hv⟩, ha⟩
        rw [ha]
    · rw [if_neg hv]

/-- Ahead of a text, another one keeps its form unless its last sigma is final only by itself. -/
theorem lowercaseBetween_nil_eq_iff {x after : List Char} :
    lowercaseBetween [] after x = lowercase x ↔ ¬(EndsInSigma x ∧ startsCased after = true) := by
  refine ⟨?_, fun h => lowercaseBetween_eq_lowercase h fun h => nomatch h.2⟩
  rw [lowercase, ← lowercaseBetween_nil, lowercaseBetween_eq_iff]
  rintro h ⟨⟨u, v, hx, hu, hv⟩, hafter⟩
  have hsame := lowercaseSigma_eq_iff.mp (h u v hx)
  simp [startsCased_append, hv, hu, hafter, startsCased_of_all hv] at hsame

theorem lowercaseAfter_eq_iff {before x : List Char} :
    lowercaseAfter before x = lowercase x ↔ ¬(BeginsWithSigma x ∧ startsCased before = true) := by
  rw [← lowercaseBetween_nil]
  refine ⟨?_, fun h => lowercaseBetween_eq_lowercase (fun h => nomatch h.2) h⟩
  rw [lowercase, ← lowercaseBetween_nil, lowercaseBetween_eq_iff]
  rintro h ⟨⟨u, v, hx, hu, hv⟩, hbefore⟩
  have hsame := lowercaseSigma_eq_iff.mp (h u v hx)
  have hu' : startsCased u.reverse = false := startsCased_of_all (List.all_reverse.trans hu)
  simp [startsCased_append, hv, hu, hbefore, hu'] at hsame

/-! ## Parts of lower-case forms -/

theorem lowercase_prefix_iff {x t : List Char} :
    lowercase x <+: lowercase (x ++ t) ↔ ¬(EndsInSigma x ∧ startsCased t = true) := by
  have hlength : (lowercase x).length = (lowercaseBetween [] t x).length := by
    rw [lowercase, ← lowercaseBetween_nil]
    exact length_lowercaseBetween _ _ _ _ x
  rw [← lowercaseBetween_nil_eq_iff, lowercase_append]
  constructor
  · exact fun h => (List.prefix_of_prefix_length_le h (List.prefix_append _ _) hlength.le
      |>.eq_of_length hlength).symm
  · intro h
    rw [h]
    exact List.prefix_append _ _

theorem lowercase_suffix_iff {t x : List Char} :
    lowercase x <:+ lowercase (t ++ x) ↔ ¬(BeginsWithSigma x ∧ startsCased t.reverse = true) := by
  have hlength : (lowercase x).length = (lowercaseAfter t.reverse x).length := by
    rw [lowercase, ← lowercaseBetween_nil, ← lowercaseBetween_nil]
    exact length_lowercaseBetween _ _ _ _ x
  rw [← lowercaseAfter_eq_iff, lowercase_append]
  constructor
  · exact fun h => (List.suffix_of_suffix_length_le h (List.suffix_append _ _) hlength.le
      |>.eq_of_length hlength).symm
  · intro h
    rw [h]
    exact List.suffix_append _ _

theorem lowercase_infix {a x b : List Char} (hafter : ¬(EndsInSigma x ∧ startsCased b = true))
    (hbefore : ¬(BeginsWithSigma x ∧ startsCased a.reverse = true)) :
    lowercase x <:+: lowercase (a ++ x ++ b) := by
  have hsame : lowercaseBetween a.reverse b x = lowercase x :=
    lowercaseBetween_eq_lowercase hafter hbefore
  rw [List.append_assoc, lowercase_append, lowercaseAfter_append, hsame, ← List.append_assoc]
  exact List.infix_append _ _ _

/-! ## Parts that are lost -/

/-- Only the letter A has the lower-case form `a`, so no case-ignorable character has. -/
theorem isCaseIgnorable_of_mem_lowercaseChar {c : Char} (h : 'a' ∈ lowercaseChar c) :
    isCaseIgnorable c = false := by
  have hrun : ∀ s ∈ lowercaseShifts, s.cells.contains (97 - s.offset).toNat = true →
      (97 - s.offset).toNat = 65 := by decide +kernel
  unfold lowercaseChar at h
  split at h
  · simp at h
  · cases himage : Shift.image? lowercaseShifts c.toNat with
    | none =>
      rw [himage, List.mem_singleton] at h
      subst h
      decide +kernel
    | some n =>
      rw [himage, List.mem_singleton] at h
      obtain ⟨s, hs, rfl⟩ := Option.map_eq_some_iff.mp himage
      have hmove : s.move c.toNat = 97 := by
        have hcode : 97 = (Char.ofNat (s.move c.toNat)).toNat := congrArg Char.toNat h
        by_cases hvalid : (s.move c.toNat).isValidChar
        · rw [Char.ofNat, dif_pos hvalid] at hcode
          exact hcode.symm
        · rw [Char.ofNat, dif_neg hvalid] at hcode
          exact absurd hcode (by decide)
      have hpreimage : (97 - s.offset).toNat = c.toNat := by
        unfold Shift.move at hmove
        omega
      have hcell := hrun s (List.mem_of_find?_eq_some hs)
      rw [hpreimage] at hcell
      have hc : c = 'A' := Char.toNat_inj.mp (hcell (by simpa using List.find?_some hs))
      subst hc
      decide +kernel

theorem notMem_lowercaseBetween {before after s : List Char}
    (h : s.all isCaseIgnorable = true) : 'a' ∉ lowercaseBetween before after s := by
  induction s generalizing before with
  | nil => simp [lowercaseBetween]
  | cons c s ih =>
    rw [List.all_cons, Bool.and_eq_true] at h
    rw [lowercaseBetween, List.mem_append, not_or]
    refine ⟨fun hmem => ?_, ih h.2⟩
    split at hmem
    · unfold lowercaseSigma at hmem
      split at hmem <;> simp at hmem
    · exact absurd h.1 (by simp [isCaseIgnorable_of_mem_lowercaseChar hmem])

theorem exists_lowercase_sigma (u v : List Char) :
    ∃ sigma, sigma ≠ 'a' ∧ lowercase (u ++ 'Σ' :: v) =
      lowercaseBetween [] ('Σ' :: v) u ++ sigma :: lowercaseBetween ('Σ' :: u.reverse) [] v := by
  refine ⟨lowercaseSigma u.reverse v, ?_, ?_⟩
  · unfold lowercaseSigma
    split <;> decide
  · rw [lowercase_append, lowercaseBetween_nil]
    rfl

theorem eq_of_infix_of_length {α : Type} {l m : List α} (h : l <:+: m)
    (hlength : m.length = l.length + 1) : l = m.dropLast ∨ l = m.tail := by
  obtain ⟨s, t, rfl⟩ := h
  simp only [List.length_append] at hlength
  match s, t with
  | [], [b] => exact .inl (by simp)
  | [b], [] => exact .inr (by simp)
  | [], [] => simp at hlength
  | [], _ :: _ :: _ => simp at hlength
  | _ :: _, _ :: _ => simp at hlength; omega
  | _ :: _ :: _, [] => simp at hlength; omega

theorem EndsInSigma.lost {x : List Char} (h : EndsInSigma x) :
    ¬lowercase x <:+: lowercase (x ++ ['a']) := by
  have hchanged : lowercaseBetween [] ['a'] x ≠ lowercase x := fun hsame =>
    lowercaseBetween_nil_eq_iff.mp hsame ⟨h, by decide +kernel⟩
  have hwhole : lowercase (x ++ ['a']) = lowercaseBetween [] ['a'] x ++ ['a'] := by
    rw [lowercase_append]
    rfl
  have hlength : (lowercaseBetween [] ['a'] x).length = (lowercase x).length := by
    rw [lowercase, ← lowercaseBetween_nil]
    exact length_lowercaseBetween _ _ _ _ x
  intro hinfix
  rw [hwhole] at hinfix
  rcases eq_of_infix_of_length hinfix (by simp [hlength]) with heq | heq
  · exact hchanged (by simpa using heq.symm)
  · obtain ⟨u, v, rfl, -, hv⟩ := h
    obtain ⟨sigma, hsigma, hform⟩ := exists_lowercase_sigma u v
    have hlast : (sigma :: lowercaseBetween ('Σ' :: u.reverse) [] v).getLast? = some 'a' := by
      have hne : lowercaseBetween [] ['a'] (u ++ 'Σ' :: v) ≠ [] := by
        rintro hnil
        rw [hnil, hform] at hlength
        simp at hlength
      rw [hform, List.tail_append_of_ne_nil hne] at heq
      simpa [List.getLast?_append] using congrArg List.getLast? heq
    rcases List.mem_cons.mp (List.mem_of_getLast? hlast) with hmem | hmem
    · exact hsigma hmem.symm
    · exact notMem_lowercaseBetween hv hmem

theorem BeginsWithSigma.lost {x : List Char} (h : BeginsWithSigma x) :
    ¬lowercase x <:+: lowercase ('a' :: x) := by
  have hchanged : lowercaseAfter ['a'] x ≠ lowercase x := fun hsame =>
    lowercaseAfter_eq_iff.mp hsame ⟨h, by decide +kernel⟩
  have hwhole : lowercase ('a' :: x) = 'a' :: lowercaseAfter ['a'] x := rfl
  have hlength : (lowercaseAfter ['a'] x).length = (lowercase x).length := by
    rw [lowercase, ← lowercaseBetween_nil, ← lowercaseBetween_nil]
    exact length_lowercaseBetween _ _ _ _ x
  intro hinfix
  rw [hwhole] at hinfix
  rcases eq_of_infix_of_length hinfix (by simp [hlength]) with heq | heq
  · obtain ⟨u, v, rfl, hu, -⟩ := h
    obtain ⟨sigma, hsigma, hform⟩ := exists_lowercase_sigma u v
    have hfirst : (lowercaseBetween [] ('Σ' :: v) u ++ [sigma]).head? = some 'a' := by
      have hne : lowercaseAfter ['a'] (u ++ 'Σ' :: v) ≠ [] := by
        rintro hnil
        rw [hnil, hform] at hlength
        simp at hlength
      rw [hform, List.dropLast_cons_of_ne_nil hne] at heq
      simpa [List.head?_append] using congrArg List.head? heq
    rcases List.mem_append.mp (List.mem_of_head? hfirst) with hmem | hmem
    · exact notMem_lowercaseBetween hu hmem
    · exact hsigma (List.mem_singleton.mp hmem).symm
  · exact hchanged heq.symm

end RecordQuery.Unicode
