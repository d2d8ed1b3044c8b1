import RecordQuery.Proofs.Path.Concatenation
import RecordQuery.Schema.Attribute
import RecordQuery.Schema.Identifier
import RecordQuery.Unicode.SetAlgebra

/-!
# Names of fields as paths

A field is named by an identifier, or by a word behind `r#` that may be a reserved one. Its name
without that mark has no dot and is not blank, and the same goes for a well-formed rename: both are
paths of one segment.
-/

namespace RecordQuery

namespace Unicode

theorem isWhiteSpace_of_isIdentifierStart {c : Char} (h : isIdentifierStart c = true) :
    isWhiteSpace c = false := by
  have hapart : whiteSpace.inter identifierStart = [] := by decide +kernel
  have hboth := Ranges.contains_inter whiteSpace identifierStart c
  rw [hapart, show identifierStart.contains c = true from h, Bool.and_true] at hboth
  exact hboth.symm

theorem isIdentifierStart_of_isAlpha {c : Char} (h : c.isAlpha = true) :
    isIdentifierStart c = true := by
  have hbounds : (0x41 ≤ c.toNat ∧ c.toNat ≤ 0x5A) ∨ (0x61 ≤ c.toNat ∧ c.toNat ≤ 0x7A) := by
    simpa [Char.isAlpha, Char.isUpper, Char.isLower, UInt32.le_iff_toNat_le] using h
  refine List.any_eq_true.mpr ?_
  rcases hbounds with hupper | hlower
  · exact ⟨(0x41, 0x5A), .head _, by simpa using hupper⟩
  · exact ⟨(0x61, 0x7A), .tail _ (.head _), by simpa using hlower⟩

end Unicode

namespace Identifier

/-- A letter or an underscore, then characters of identifiers. -/
def IsWord (name : String) : Prop :=
  ∃ c rest, name.toList = c :: rest ∧ (c = '_' ∨ Unicode.isIdentifierStart c = true) ∧
    ∀ d ∈ rest, Unicode.isIdentifierPart d = true

/-- The ways to write the name of a field. -/
inductive Spells : String → String → Prop where
  | plain {name : String} : isValid name = true → Spells name name
  | raw {name : String} : IsWord name → name ∉ ["_", "crate", "self", "super", "Self"] →
      Spells ("r#" ++ name) name

theorem isWord_of_isValid {name : String} (h : isValid name = true) : IsWord name := by
  unfold isValid at h
  split at h
  · cases h
  · rename_i c rest hname
    simp only [Bool.and_eq_true, Bool.or_eq_true, beq_iff_eq, List.all_eq_true] at h
    exact ⟨c, rest, hname, h.1.1.1, h.1.1.2⟩

theorem Spells.isWord {written name : String} (h : Spells written name) : IsWord name := by
  cases h with
  | plain hvalid => exact isWord_of_isValid hvalid
  | raw hword => exact hword

theorem IsWord.isIdentifierPart {name : String} (h : IsWord name) {c : Char}
    (hc : c ∈ name.toList) : Unicode.isIdentifierPart c = true := by
  obtain ⟨first, rest, hname, hfirst, hrest⟩ := h
  rw [hname] at hc
  rcases List.mem_cons.mp hc with rfl | hc
  · rcases hfirst with rfl | hstart
    · decide +kernel
    · simp [Unicode.isIdentifierPart, hstart]
  · exact hrest c hc

theorem IsWord.notMem {name : String} (h : IsWord name) {c : Char}
    (hc : Unicode.isIdentifierPart c = false) : c ∉ name.toList := by
  intro hmem
  rw [h.isIdentifierPart hmem] at hc
  cases hc

end Identifier

/-! ## Paths of one segment -/

theorem splitDots_of_notMem {s : List Char} (h : '.' ∉ s) : splitDots s = [s] := by
  induction s with
  | nil => rfl
  | cons c s ih =>
    rw [List.mem_cons, not_or] at h
    obtain ⟨hc, hs⟩ := h
    rw [splitDots, if_neg (by simpa using Ne.symm hc), ih hs]

namespace AttributeName

/-- A name that reads as a path of one segment. -/
structure IsSegment (name : String) : Prop where
  noDot : '.' ∉ name.toList
  visible : Unicode.isBlank name.toList = false

theorem IsSegment.exists_parse {name : String} (h : IsSegment name) :
    ∃ p, PropertyPath.parse name = .ok p ∧ p.segments = [name] := by
  have hpieces := splitDots_of_notMem h.noDot
  have hvisible : (splitDots name.toList).any Unicode.isBlank = false := by
    rw [hpieces]
    simpa using h.visible
  obtain ⟨p, hp⟩ := PropertyPath.exists_parse_iff.mpr hvisible
  refine ⟨p, hp, ?_⟩
  rw [PropertyPath.segments_of_parse hp, hpieces, List.map_singleton, String.ofList_toList]

theorem isBlank_of_head {c : Char} {rest : List Char}
    (h : c = '_' ∨ Unicode.isIdentifierStart c = true) :
    Unicode.isBlank (c :: rest) = false := by
  have hc : Unicode.isWhiteSpace c = false := by
    rcases h with rfl | hstart
    · decide
    · exact Unicode.isWhiteSpace_of_isIdentifierStart hstart
  simp [Unicode.isBlank, hc]

theorem IsSegment.of_isWord {name : String} (h : Identifier.IsWord name) : IsSegment name := by
  refine ⟨h.notMem (by decide +kernel), ?_⟩
  obtain ⟨c, rest, hname, hfirst, -⟩ := h
  rw [hname]
  exact isBlank_of_head hfirst

theorem IsSegment.of_isRename {name : String} (h : isRename name = true) : IsSegment name := by
  unfold isRename at h
  split at h
  · cases h
  · rename_i c rest hname
    simp only [Bool.and_eq_true, Bool.or_eq_true, beq_iff_eq, List.all_eq_true] at h
    obtain ⟨⟨hfirst, hrest⟩, -⟩ := h
    refine ⟨fun hdot => ?_, ?_⟩
    · rw [hname] at hdot
      rcases List.mem_cons.mp hdot with hdot | hdot
      · rw [← hdot] at hfirst
        exact absurd hfirst (by decide)
      · exact absurd (hrest '.' hdot) (by decide)
    · rw [hname]
      exact isBlank_of_head (hfirst.symm.imp_right Unicode.isIdentifierStart_of_isAlpha)

/-! ## Names of fields -/

theorem dropRawMarks_of_notMem {name : List Char} (h : '#' ∉ name) : dropRawMarks name = name := by
  unfold dropRawMarks
  split
  · simp at h
  · rfl

theorem ofField_of_spells {written name : String} (h : Identifier.Spells written name) :
    ofField written = name := by
  have hmark : dropRawMarks name.toList = name.toList :=
    dropRawMarks_of_notMem (h.isWord.notMem (by decide +kernel))
  cases h with
  | plain => rw [ofField, hmark, String.ofList_toList]
  | raw =>
    have hraw : dropRawMarks ("r#" ++ name).toList = name.toList := by
      rw [String.toList_append]
      exact hmark
    rw [ofField, hraw, String.ofList_toList]

end AttributeName

end RecordQuery
