import RecordQuery.Proofs.Path.Concatenation

/-!
# Paths by position

The text of a path is its segments with dots between them, so the segments tell the text, and there
is one more of them than there are dots. A walk along the segments can therefore go by positions: it
has a last position to stop at, it stops there at the latest, and in front of it there is always a
next segment to name.
-/

namespace RecordQuery

/-! ## Texts between dots -/

theorem splitDots_eq_splitOn (s : List Char) : splitDots s = s.splitOn '.' := by
  induction s with
  | nil => rfl
  | cons c s ih =>
    rw [splitDots, List.splitOn_cons_eq_if_modifyHead, ih]
    split
    · rfl
    · cases h : s.splitOn '.' with
      | nil => exact absurd (ih.trans h) (splitDots_ne_nil s)
      | cons piece more => rfl

theorem notMem_of_mem_splitDots {s piece : List Char} (h : piece ∈ splitDots s) : '.' ∉ piece := by
  induction s generalizing piece with
  | nil =>
    obtain rfl := List.mem_singleton.mp h
    exact List.not_mem_nil
  | cons c s ih =>
    rw [splitDots] at h
    split at h
    · rcases List.mem_cons.mp h with rfl | h
      · exact List.not_mem_nil
      · exact ih h
    · rename_i hc
      cases hs : splitDots s with
      | nil => exact absurd hs (splitDots_ne_nil s)
      | cons first more =>
        rw [hs] at h ih
        rcases List.mem_cons.mp h with rfl | h
        · have hfirst := ih List.mem_cons_self
          rw [List.mem_cons, not_or]
          exact ⟨fun hdot => hc (beq_iff_eq.mpr hdot.symm), hfirst⟩
        · exact ih (List.mem_cons_of_mem first h)

theorem length_splitDots (s : List Char) : (splitDots s).length = s.count '.' + 1 := by
  induction s with
  | nil => rfl
  | cons c s ih =>
    rw [splitDots, List.count_cons]
    split
    · rw [List.length_cons, ih]
    · rw [Nat.add_zero, ← ih]
      cases hs : splitDots s with
      | nil => exact absurd hs (splitDots_ne_nil s)
      | cons first more => rfl

namespace PropertyPath

theorem toList_segments (p : PropertyPath) :
    p.segments.map String.toList = splitDots p.dotted.toList := by
  rw [segments, List.map_map]
  exact (List.map_congr_left fun piece _ => String.toList_ofList).trans (List.map_id _)

theorem intercalate_segments (p : PropertyPath) : ".".intercalate p.segments = p.dotted := by
  rw [← String.toList_inj, String.toList_intercalate, toList_segments, splitDots_eq_splitOn]
  exact List.intercalate_splitOn '.'

theorem dotted_eq_of_segments {p q : PropertyPath} (h : p.segments = q.segments) :
    p.dotted = q.dotted := by
  rw [← p.intercalate_segments, h, q.intercalate_segments]

theorem notMem_segment {p : PropertyPath} {name : String} (h : name ∈ p.segments) :
    '.' ∉ name.toList := by
  refine notMem_of_mem_splitDots (s := p.dotted.toList) ?_
  rw [← toList_segments]
  exact List.mem_map_of_mem h

theorem length_segments (p : PropertyPath) :
    p.segments.length = p.dotted.toList.count '.' + 1 := by
  rw [segments, List.length_map, length_splitDots]

theorem exists_parse_iff_visible {dotted : String} : (∃ p, parse dotted = .ok p) ↔
    ∀ piece ∈ dotted.toList.splitOn '.', ∃ c ∈ piece, Unicode.isWhiteSpace c = false := by
  rw [exists_parse_iff, splitDots_eq_splitOn]
  simp [Unicode.isBlank]

end PropertyPath

/-! ## Walking by position -/

/-- How a walk along the positions of a path can end. -/
inductive WalkEnd where
  | result (found : Except QueryError (Option Value))
  /-- There is no last position. -/
  | noLast
  /-- The segment behind the last one was to be named. -/
  | noNext
  /-- All positions were passed. -/
  | passed

namespace CachedPath

/-- Walks along the segments from a position on. The walk stops at the last position, and the
segment that a value without attributes fails is looked up by position among all. -/
def walkFrom (all : List CachedSegment) (last : Nat) :
    Nat → List CachedSegment → Record → WalkEnd × List CachedSegment
  | _, [], _ => (.passed, [])
  | depth, s :: rest, r =>
    match s.slot r with
    | (.error e, s) => (.result (.error e), s :: rest)
    | (.ok slot, s) =>
      let v := r.valueAt slot
      if v.isNull then (.result (.ok none), s :: rest)
      else if depth = last then (.result (.ok (some v)), s :: rest)
      else match v.toRecord? with
        | some inner =>
          let (found, rest) := walkFrom all last (depth + 1) rest inner
          (found, s :: rest)
        | none =>
          match all[depth + 1]? with
          | some next => (.result (.error (.notARecord next.name v.kind)), s :: rest)
          | none => (.noNext, s :: rest)

def walk (p : CachedPath) (r : Record) : WalkEnd × List CachedSegment :=
  match p.segments.length with
  | 0 => (.noLast, p.segments)
  | last + 1 => walkFrom p.segments last 0 p.segments r

/-- In front of the last position there is a next segment, and at the last one the walk stops. -/
theorem walkFrom_eq_follow {all rest : List CachedSegment} {last depth : Nat}
    (hlast : all.length = last + 1) (hrest : all.drop depth = rest) (hne : rest ≠ [])
    (r : Record) :
    walkFrom all last depth rest r = (.result (follow rest r).1, (follow rest r).2) := by
  induction rest generalizing depth r with
  | nil => exact absurd rfl hne
  | cons s rest ih =>
    have hlength := congrArg List.length hrest
    rw [List.length_drop, hlast, List.length_cons] at hlength
    have hdrop : all.drop (depth + 1) = rest := by
      rw [← List.drop_drop, hrest, List.drop_one, List.tail_cons]
    have hnext : all[depth + 1]? = rest.head? := by
      rw [← hdrop, List.head?_drop]
    rw [walkFrom, follow]
    generalize s.slot r = found
    obtain ⟨_ | slot, s'⟩ := found
    · rfl
    cases hnull : (r.valueAt slot).isNull with
    | true => simp only [hnull, if_true]
    | false =>
      simp only [hnull, Bool.false_eq_true, if_false]
      cases rest with
      | nil => rw [if_pos (by simp at hlength; omega)]
      | cons next rest =>
        rw [if_neg (by simp at hlength; omega), hnext]
        cases (r.valueAt slot).toRecord? with
        | none => rfl
        | some inner =>
          simp only [ih hdrop (List.cons_ne_nil next rest) inner]

theorem walk_eq_resolve {p : CachedPath} (h : p.segments ≠ []) (r : Record) :
    p.walk r = (.result (p.resolve r).1, (p.resolve r).2.segments) := by
  unfold walk
  cases hlength : p.segments.length with
  | zero => exact absurd (List.length_eq_zero_iff.mp hlength) h
  | succ last => exact walkFrom_eq_follow hlength List.drop_zero h r

/-! ## Paths in use -/

theorem slot_name (s : CachedSegment) (r : Record) : (s.slot r).2.name = s.name := by
  unfold CachedSegment.slot
  split
  · rfl
  · split <;> rfl

theorem follow_names (segments : List CachedSegment) (r : Record) :
    (follow segments r).2.map CachedSegment.name = segments.map CachedSegment.name := by
  induction segments generalizing r with
  | nil => rfl
  | cons s rest ih =>
    have hname := slot_name s r
    rw [follow]
    generalize s.slot r = found at hname
    obtain ⟨_ | slot, s'⟩ := found
    · exact congrArg₂ List.cons hname rfl
    simp only
    cases (r.valueAt slot).isNull with
    | true => exact congrArg₂ List.cons hname rfl
    | false =>
      rw [if_neg Bool.false_ne_true]
      cases rest with
      | nil => exact congrArg₂ List.cons hname rfl
      | cons next rest =>
        cases (r.valueAt slot).toRecord? with
        | none => exact congrArg₂ List.cons hname rfl
        | some inner => exact congrArg₂ List.cons hname (ih inner)

/-- A path after records that it was resolved on, one after another. -/
def after (p : CachedPath) (met : List Record) : CachedPath :=
  met.foldl (fun p r => (p.resolve r).2) p

theorem after_names (p : CachedPath) (met : List Record) :
    (p.after met).segments.map CachedSegment.name = p.segments.map CachedSegment.name := by
  induction met generalizing p with
  | nil => rfl
  | cons r met ih => exact (ih (p.resolve r).2).trans (follow_names p.segments r)

theorem after_ofPath_names (p : PropertyPath) (met : List Record) :
    ((ofPath p).after met).segments.map CachedSegment.name = p.segments := by
  rw [after_names, ofPath, List.map_map]
  exact List.map_id _

end CachedPath

/-- A text reads as a path exactly if each of its pieces between dots has a character that is not
white space, and the walk by position never misses a segment. -/
theorem PropertyPath.parse_by_segments (dotted : String) :
    ((∃ p, parse dotted = .ok p) ↔
      ∀ piece ∈ dotted.toList.splitOn '.', ∃ c ∈ piece, Unicode.isWhiteSpace c = false) ∧
    ∀ p, parse dotted = .ok p →
      (∀ name ∈ p.segments, '.' ∉ name.toList) ∧
      ".".intercalate p.segments = dotted ∧
      (∀ q : PropertyPath, q.segments = p.segments → q.dotted = dotted) ∧
      p.segments.length = dotted.toList.count '.' + 1 ∧
      ∀ (met : List Record) (r : Record),
        let object := (CachedPath.ofPath p).after met
        object.segments.map CachedSegment.name = p.segments ∧
        object.walk r = (.result (object.resolve r).1, (object.resolve r).2.segments) := by
  refine ⟨exists_parse_iff_visible, fun p hp => ?_⟩
  obtain rfl := parse_eq_ok_iff.mp hp
  refine ⟨fun name => notMem_segment, p.intercalate_segments, fun q => dotted_eq_of_segments,
    p.length_segments, fun met r => ?_⟩
  intro object
  have hnames : object.segments.map CachedSegment.name = p.segments :=
    CachedPath.after_ofPath_names p met
  refine ⟨hnames, CachedPath.walk_eq_resolve ?_ r⟩
  intro hnil
  obtain ⟨next, rest, hsegments⟩ := p.exists_segments_eq_cons
  rw [hnil, hsegments] at hnames
  cases hnames

/-- A blank between dots is no segment, whichever kind of white space it is. -/
example : (PropertyPath.parse "a.\u2003.b").isOk = false := by decide

end RecordQuery
