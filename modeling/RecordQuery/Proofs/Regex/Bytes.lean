import Mathlib.Data.List.Basic
import RecordQuery.Proofs.Outcome
import RecordQuery.Regex.Pattern

/-!
# Classes outside Unicode

Outside Unicode a class may hold ASCII characters only. What classes are made by keeps to ASCII, but
for the negation, which never does. So whether there is such a class does not depend on whether
letter case is ignored.
-/

namespace RecordQuery.Regex

open Unicode

namespace CharSet

variable {s t : CharSet}

theorem isAscii_iff : s.isAscii = true ↔ ∀ r ∈ s, r.2 < 128 := by simp [isAscii]

theorem isAscii_insert (h : s.isAscii = true) {first last : Nat} (hlast : last < 128) :
    CharSet.isAscii (Ranges.insert first last s) = true := by
  rw [isAscii_iff] at h ⊢
  induction s generalizing first last with
  | nil => simpa [Ranges.insert] using hlast
  | cons r rest ih =>
    obtain ⟨hr, hrest⟩ := List.forall_mem_cons.mp h
    rw [Ranges.insert]
    split_ifs
    · exact List.forall_mem_cons.mpr ⟨hlast, h⟩
    · exact List.forall_mem_cons.mpr ⟨hr, ih hrest hlast⟩
    · exact ih hrest (Nat.max_lt.mpr ⟨hlast, hr⟩)

theorem isAscii_union (hs : s.isAscii = true) (ht : t.isAscii = true) :
    CharSet.isAscii (Ranges.union s t) = true := by
  rw [isAscii_iff] at hs
  unfold Ranges.union
  induction s generalizing t with
  | nil => exact ht
  | cons r rest ih =>
    obtain ⟨hr, hrest⟩ := List.forall_mem_cons.mp hs
    exact ih hrest (isAscii_insert ht hr)

theorem isAscii_inter (hs : s.isAscii = true) (t : CharSet) :
    CharSet.isAscii (Ranges.inter s t) = true := by
  rw [isAscii_iff] at hs ⊢
  intro r hr
  simp only [Ranges.inter, List.mem_flatMap, List.mem_filterMap] at hr
  obtain ⟨a, ha, b, -, hab⟩ := hr
  split at hab
  · cases hab
    exact Nat.lt_of_le_of_lt (Nat.min_le_left _ _) (hs a ha)
  · cases hab

theorem isAscii_gapsFrom (hs : s.isAscii = true) {next : Nat} (hnext : next ≤ 128) :
    CharSet.isAscii (Ranges.gapsFrom next s) = false := by
  rw [isAscii_iff] at hs
  induction s generalizing next with
  | nil =>
    have hlast : next ≤ lastCodePoint := Nat.le_trans hnext (by decide)
    rw [Ranges.gapsFrom, if_pos hlast]
    rfl
  | cons r rest ih =>
    obtain ⟨hr, hrest⟩ := List.forall_mem_cons.mp hs
    have hgaps := ih hrest hr
    rw [Ranges.gapsFrom]
    split_ifs
    · rw [isAscii, List.all_cons, ← isAscii, hgaps, Bool.and_false]
    · exact hgaps

theorem isAscii_compl (hs : s.isAscii = true) : CharSet.isAscii (Ranges.compl s) = false :=
  isAscii_gapsFrom hs (Nat.zero_le _)

theorem isAscii_images {runs : List Shift}
    (h : ∀ run ∈ runs, ∀ n, run.cells.contains n = true → run.move n < 128) (s : CharSet) :
    CharSet.isAscii (runs.flatMap fun run => s.flatMap fun r => run.images r.1 r.2) = true := by
  rw [isAscii_iff]
  intro r hr
  simp only [List.mem_flatMap, Shift.images, List.mem_filterMap] at hr
  obtain ⟨run, hrun, a, -, i, -, hi⟩ := hr
  split at hi
  · rename_i hcell
    cases hi
    exact h run hrun _ hcell
  · cases hi

theorem isAscii_closeUnder (hs : s.isAscii = true) :
    CharSet.isAscii (Ranges.closeUnder asciiFolding s) = true := by
  have hlast (run : Shift) (n : Nat) (hn : run.cells.contains n = true) : n ≤ run.cells.last := by
    simp only [Steps.contains, Bool.and_eq_true, decide_eq_true_eq] at hn
    exact hn.1.2
  have hfold : ∀ run ∈ asciiFolding, ∀ n, run.cells.contains n = true → run.move n < 128 := by
    rintro _ (_ | ⟨_, ⟨⟩⟩) n hn
    have hn : n ≤ 0x5A := hlast _ n hn
    show ((n : Int) + 32).toNat < 128
    omega
  have hunfold : ∀ run ∈ asciiFolding.map Shift.inverse, ∀ n,
      run.cells.contains n = true → run.move n < 128 := by
    rintro _ (_ | ⟨_, ⟨⟩⟩) n hn
    have hn : n ≤ 0x7A := hlast _ n hn
    show ((n : Int) + -32).toNat < 128
    omega
  exact isAscii_union (isAscii_images hunfold _) (isAscii_union (isAscii_images hfold _) hs)

theorem isAscii_foldIf (hs : s.isAscii = true) (insensitive : Bool) :
    CharSet.isAscii (foldIf insensitive false s) = true := by
  cases insensitive with
  | false => exact hs
  | true => exact isAscii_closeUnder hs

theorem isAscii_complIf (hs : s.isAscii = true) (negated : Bool) :
    CharSet.isAscii (complIf negated s) = !negated := by
  cases negated with
  | false => exact hs
  | true => exact isAscii_compl hs

theorem isAscii_apply (op : SetOperation) (hs : s.isAscii = true) (ht : t.isAscii = true) :
    (op.apply s t).isAscii = true := by
  cases op with
  | intersection => exact isAscii_inter hs t
  | difference => exact isAscii_inter hs _
  | symmetricDifference => exact isAscii_union (isAscii_inter hs _) (isAscii_inter ht _)

end CharSet

theorem Posix.isAscii_chars (p : Posix) : p.chars.isAscii = true := by cases p <;> rfl

theorem Flags.eq_of_allow {f : Flags} {s t : CharSet} (h : f.allow s = .ok t) : t = s := by
  unfold Flags.allow at h
  split at h <;> cases h
  rfl

theorem Flags.allow_eq_ok_iff {f : Flags} (hf : f.unicode = false) {s t : CharSet} :
    f.allow s = .ok t ↔ s.isAscii = true ∧ t = s := by
  unfold Flags.allow
  rw [hf, Bool.false_or]
  cases s.isAscii <;> simp [eq_comm]

theorem Flags.isAscii_fold {f : Flags} (hf : f.unicode = false) {s : CharSet}
    (hs : s.isAscii = true) : (f.fold s).isAscii = true := by
  rw [fold, hf]
  exact CharSet.isAscii_foldIf hs _

theorem Flags.exists_allow_iff {f : Flags} (hf : f.unicode = false) {s : CharSet}
    (hs : s.isAscii = true) (negated : Bool) :
    (∃ t, f.allow ((f.fold s).complIf negated) = .ok t) ↔ negated = false := by
  simp only [allow_eq_ok_iff hf, CharSet.isAscii_complIf (isAscii_fold hf hs), Bool.not_eq_true',
    exists_eq_right]

namespace ClassSet

/-- Outside Unicode a class that there is holds ASCII characters only, and is there whatever the
other flags. -/
theorem chars_outside_unicode (a : ClassSet) {f : Flags} (hf : f.unicode = false) {s : CharSet}
    (h : a.chars f = .ok s) :
    s.isAscii = true ∧ ∀ f' : Flags, f'.unicode = false → ∃ s', a.chars f' = .ok s' := by
  induction a generalizing f s with
  | empty =>
    cases h
    exact ⟨rfl, fun f' _ => ⟨_, rfl⟩⟩
  | range first last =>
    obtain ⟨hascii, rfl⟩ := (Flags.allow_eq_ok_iff hf).mp h
    exact ⟨hascii, fun f' hf' => ⟨_, (Flags.allow_eq_ok_iff hf').mpr ⟨hascii, rfl⟩⟩⟩
  | perl p negated =>
    obtain ⟨hascii, rfl⟩ := (Flags.allow_eq_ok_iff hf).mp h
    refine ⟨hascii, fun f' hf' => ⟨_, (Flags.allow_eq_ok_iff hf').mpr ⟨?_, rfl⟩⟩⟩
    rw [hf']
    rwa [hf] at hascii
  | posix p negated =>
    have hp : p.chars.isAscii = true := p.isAscii_chars
    have hplain : negated = false := (Flags.exists_allow_iff hf hp negated).mp ⟨s, h⟩
    obtain ⟨hascii, rfl⟩ := (Flags.allow_eq_ok_iff hf).mp h
    exact ⟨hascii, fun f' hf' => (Flags.exists_allow_iff hf' hp negated).mpr hplain⟩
  | union a b iha ihb =>
    obtain ⟨t, hb, h⟩ := exists_of_bind_ok h
    obtain ⟨s, ha, h⟩ := exists_of_bind_ok h
    cases h
    obtain ⟨hs, hsucceeds⟩ := iha hf ha
    obtain ⟨ht, hsucceeds'⟩ := ihb hf hb
    refine ⟨CharSet.isAscii_union ht hs, fun f' hf' => ?_⟩
    obtain ⟨s', hs'⟩ := hsucceeds f' hf'
    obtain ⟨t', ht'⟩ := hsucceeds' f' hf'
    exact ⟨_, by rw [chars, ht', hs']; rfl⟩
  | operation op a b iha ihb =>
    obtain ⟨s, ha, h⟩ := exists_of_bind_ok h
    obtain ⟨t, hb, h⟩ := exists_of_bind_ok h
    cases h
    obtain ⟨hs, hsucceeds⟩ := iha hf ha
    obtain ⟨ht, hsucceeds'⟩ := ihb hf hb
    refine ⟨CharSet.isAscii_apply op (Flags.isAscii_fold hf hs) (Flags.isAscii_fold hf ht),
      fun f' hf' => ?_⟩
    obtain ⟨s', hs'⟩ := hsucceeds f' hf'
    obtain ⟨t', ht'⟩ := hsucceeds' f' hf'
    exact ⟨_, by rw [chars, hs', ht']; rfl⟩
  | bracketed negated a ih =>
    obtain ⟨t, ha, h⟩ := exists_of_bind_ok h
    obtain ⟨ht, hsucceeds⟩ := ih hf ha
    have hplain : negated = false := (Flags.exists_allow_iff hf ht negated).mp ⟨s, h⟩
    obtain ⟨hascii, rfl⟩ := (Flags.allow_eq_ok_iff hf).mp h
    refine ⟨hascii, fun f' hf' => ?_⟩
    obtain ⟨t', ht'⟩ := hsucceeds f' hf'
    obtain ⟨s', hs'⟩ := (Flags.exists_allow_iff hf' (ih hf' ht').1 negated).mpr hplain
    exact ⟨s', by rw [chars, ht']; exact hs'⟩

theorem exists_chars_unicode (a : ClassSet) {f : Flags} (hf : f.unicode = true) :
    ∃ s, a.chars f = .ok s := by
  have hallow (s : CharSet) : f.allow s = .ok s := by
    rw [Flags.allow, hf]
    rfl
  induction a with
  | empty => exact ⟨_, rfl⟩
  | range first last => exact ⟨_, hallow _⟩
  | perl p negated => exact ⟨_, hallow _⟩
  | posix p negated => exact ⟨_, hallow _⟩
  | union a b iha ihb | operation op a b iha ihb =>
    obtain ⟨s, ha⟩ := iha
    obtain ⟨t, hb⟩ := ihb
    exact ⟨_, by rw [chars, ha, hb]; rfl⟩
  | bracketed negated a ih =>
    obtain ⟨s, ha⟩ := ih
    exact ⟨_, by rw [chars, ha]; exact hallow _⟩

/-- Of all flags only Unicode decides whether there is a class. -/
theorem exists_chars_of_unicode_eq {a : ClassSet} {f f' : Flags} (h : f'.unicode = f.unicode)
    {s : CharSet} (hs : a.chars f = .ok s) : ∃ s', a.chars f' = .ok s' := by
  cases hf : f.unicode with
  | true => exact a.exists_chars_unicode (h.trans hf)
  | false => exact (a.chars_outside_unicode hf hs).2 f' (h.trans hf)

end ClassSet

end RecordQuery.Regex
