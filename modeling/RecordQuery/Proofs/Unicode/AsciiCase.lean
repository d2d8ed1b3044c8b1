import RecordQuery.Unicode.Lowercase

/-!
# The case of ASCII letters

`Char.toLower` makes the capital letters of ASCII small and leaves every other character alone.
Lower-casing a text does not see whether that has been done before: a letter has the same form in
lower case either way, and it is a cased character either way, so that the words around a capital
sigma end where they did.
-/

namespace RecordQuery.Unicode

/-- What is the same of each small ASCII letter and its capital does not see their case. -/
theorem apply_toLower {β : Type} {f : Char → β}
    (h : ∀ n : Fin 26, f (Char.ofNat (97 + n)) = f (Char.ofNat (65 + n))) (c : Char) :
    f c.toLower = f c := by
  have hsmall : ∀ n : Fin 26, (Char.ofNat (65 + n)).toLower = Char.ofNat (97 + n) := by
    decide +kernel
  by_cases hc : c.val ≥ 'A'.val ∧ c.val ≤ 'Z'.val
  · obtain ⟨hlow, hhigh⟩ := hc
    have hlow : 65 ≤ c.toNat := hlow
    have hhigh : c.toNat ≤ 90 := hhigh
    have hcode : c = Char.ofNat (65 + (⟨c.toNat - 65, by omega⟩ : Fin 26)) := by
      rw [Nat.add_sub_cancel' hlow, Char.ofNat_toNat]
    rw [hcode, hsmall, h]
  · have hsame : c.toLower = c := dif_neg hc
    rw [hsame]

/-- All that lower-casing asks of a character. -/
theorem asciiLetters_alike : ∀ n : Fin 26,
    let small := Char.ofNat (97 + n)
    let capital := Char.ofNat (65 + n)
    isCaseIgnorable small = isCaseIgnorable capital ∧ isCased small = isCased capital ∧
      lowercaseChar small = lowercaseChar capital ∧ (small == 'Σ') = (capital == 'Σ') := by
  decide +kernel

theorem isCaseIgnorable_toLower (c : Char) : isCaseIgnorable c.toLower = isCaseIgnorable c :=
  apply_toLower (fun n => (asciiLetters_alike n).1) c

theorem isCased_toLower (c : Char) : isCased c.toLower = isCased c :=
  apply_toLower (fun n => (asciiLetters_alike n).2.1) c

theorem lowercaseChar_toLower (c : Char) : lowercaseChar c.toLower = lowercaseChar c :=
  apply_toLower (fun n => (asciiLetters_alike n).2.2.1) c

theorem toLower_beq_sigma (c : Char) : (c.toLower == 'Σ') = (c == 'Σ') :=
  apply_toLower (f := (· == 'Σ')) (fun n => (asciiLetters_alike n).2.2.2) c

theorem startsCased_map_toLower (s : List Char) :
    startsCased (s.map Char.toLower) = startsCased s := by
  unfold startsCased
  induction s with
  | nil => rfl
  | cons c s ih =>
    rw [List.map_cons, List.dropWhile_cons, List.dropWhile_cons, isCaseIgnorable_toLower]
    cases isCaseIgnorable c with
    | true => exact ih
    | false => exact isCased_toLower c

theorem lowercaseSigma_map_toLower (before after : List Char) :
    lowercaseSigma (before.map Char.toLower) (after.map Char.toLower) =
      lowercaseSigma before after := by
  rw [lowercaseSigma, lowercaseSigma, startsCased_map_toLower, startsCased_map_toLower]

theorem lowercaseAfter_map_toLower (before s : List Char) :
    lowercaseAfter (before.map Char.toLower) (s.map Char.toLower) = lowercaseAfter before s := by
  induction s generalizing before with
  | nil => rfl
  | cons c s ih =>
    rw [List.map_cons, lowercaseAfter, lowercaseAfter, toLower_beq_sigma,
      lowercaseSigma_map_toLower, lowercaseChar_toLower]
    exact congrArg _ (ih (c :: before))

theorem lowercase_map_toLower (s : List Char) : lowercase (s.map Char.toLower) = lowercase s :=
  lowercaseAfter_map_toLower [] s

/-- Texts that differ in nothing but the case of ASCII letters. -/
def SameButAsciiCase (s t : String) : Prop :=
  s.toList.map Char.toLower = t.toList.map Char.toLower

instance (s t : String) : Decidable (SameButAsciiCase s t) :=
  inferInstanceAs (Decidable (s.toList.map Char.toLower = t.toList.map Char.toLower))

theorem SameButAsciiCase.symm {s t : String} (h : SameButAsciiCase s t) : SameButAsciiCase t s :=
  Eq.symm h

theorem SameButAsciiCase.lowercase_eq {s t : String} (h : SameButAsciiCase s t) :
    lowercase s.toList = lowercase t.toList := by
  rw [← lowercase_map_toLower, h, lowercase_map_toLower]

end RecordQuery.Unicode
