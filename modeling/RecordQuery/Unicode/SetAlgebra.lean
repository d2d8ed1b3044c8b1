import RecordQuery.Unicode.Range

/-!
# Algebra of code point sets

Union, intersection and complement of sets kept as ranges. The results are ascending and apart
where the arguments are, so equal sets have equal ranges.
-/

namespace RecordQuery.Unicode

def lastCodePoint : Nat := 0x10FFFF

namespace Ranges

/-- Adds the code points from `first` to `last`, and joins what touches. -/
def insert (first last : Nat) : Ranges → Ranges
  | [] => [(first, last)]
  | r :: rest =>
    if last + 1 < r.1 then (first, last) :: r :: rest
    else if r.2 + 1 < first then r :: insert first last rest
    else insert (min first r.1) (max last r.2) rest

def union (rs ss : Ranges) : Ranges := rs.foldl (fun acc r => acc.insert r.1 r.2) ss

def inter (rs ss : Ranges) : Ranges :=
  rs.flatMap fun r => ss.filterMap fun s =>
    if max r.1 s.1 ≤ min r.2 s.2 then some (max r.1 s.1, min r.2 s.2) else none

/-- The code points from `next` on that lie in no range. -/
def gapsFrom (next : Nat) : Ranges → Ranges
  | [] => if next ≤ lastCodePoint then [(next, lastCodePoint)] else []
  | r :: rest =>
    if next < r.1 then (next, r.1 - 1) :: gapsFrom (r.2 + 1) rest else gapsFrom (r.2 + 1) rest

def compl (rs : Ranges) : Ranges := gapsFrom 0 rs

/-- No range runs backward. -/
def Proper (rs : Ranges) : Prop := ∀ r ∈ rs, r.1 ≤ r.2

theorem contains_cons (r : Nat × Nat) (rs : Ranges) (c : Char) :
    Ranges.contains (r :: rs) c = (decide (r.1 ≤ c.toNat ∧ c.toNat ≤ r.2) || rs.contains c) := by
  simp [Ranges.contains]

theorem contains_insert {rs : Ranges} (h : rs.Proper) {first last : Nat} (hl : first ≤ last)
    (c : Char) :
    (rs.insert first last).contains c
      = (decide (first ≤ c.toNat ∧ c.toNat ≤ last) || rs.contains c) := by
  induction rs generalizing first last with
  | nil => simp [insert, contains_cons]
  | cons r rest ih =>
    have hr : r.1 ≤ r.2 := h r (by simp)
    have hrest : Proper rest := fun s hs => h s (by simp [hs])
    rw [insert]
    split
    · rw [contains_cons]
    · split
      · rw [contains_cons, ih hrest hl, contains_cons]
        ac_rfl
      · rw [ih hrest (by omega), contains_cons, ← Bool.or_assoc]
        congr 1
        rw [Bool.eq_iff_iff]
        simp only [Bool.or_eq_true, decide_eq_true_eq]
        omega

theorem contains_inter (rs ss : Ranges) (c : Char) :
    (rs.inter ss).contains c = (rs.contains c && ss.contains c) := by
  rw [Bool.eq_iff_iff]
  simp only [inter, Ranges.contains, List.any_eq_true, List.mem_flatMap, List.mem_filterMap,
    Bool.and_eq_true, decide_eq_true_eq]
  constructor
  · rintro ⟨t, ⟨r, hr, s, hs, ht⟩, hc⟩
    split at ht
    · obtain rfl := Option.some.inj ht
      exact ⟨⟨r, hr, by omega⟩, ⟨s, hs, by omega⟩⟩
    · cases ht
  · rintro ⟨⟨r, hr, hrc⟩, ⟨s, hs, hsc⟩⟩
    refine ⟨(max r.1 s.1, min r.2 s.2), ⟨r, hr, s, hs, if_pos (by omega)⟩, ?_⟩
    omega

end Ranges

end RecordQuery.Unicode
