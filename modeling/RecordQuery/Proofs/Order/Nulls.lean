import RecordQuery.Proofs.Order.Grouping
import RecordQuery.Proofs.Order.Reversal
import RecordQuery.Proofs.Order.Successive

/-!
# Nulls and directions

A sort puts the records whose first key is null together at the end that the key names, whatever
its direction. Sorting by one key the other way around leaves them as they are, and takes the groups
of equal keys in opposite order without turning any of them around.
-/

namespace RecordQuery

/-- The items whose key is null, together on their side of the others. -/
def NullPlacement.place {α : Type} (nulls : NullPlacement) (absent present : List α) : List α :=
  match nulls with
  | first => absent ++ present
  | last => present ++ absent

namespace PathKey

def toward (k : PathKey) (d : Direction) : PathKey := { k with direction := d }

def findsNull (k : PathKey) (r : Record) : Bool :=
  match k.path.path.resolve r with
  | .ok none => true
  | _ => false

/-- Whether the key finds equal values in two records, null in neither. -/
def findsEqual (k : PathKey) (a b : Record) : Bool :=
  match k.found a, k.found b with
  | some v, some w => v == w
  | _, _ => false

/-- Null does not stand between values, so three keys are in order if one of them is null. -/
theorem notAbove_trans_of_null {k : PathKey} {u v w : Option Value}
    (hnull : u = none ∨ v = none ∨ w = none)
    (huv : StableSort.notAbove k.compareValues u v = true)
    (hvw : StableSort.notAbove k.compareValues v w = true) :
    StableSort.notAbove k.compareValues u w = true := by
  match u, v, w with
  | some u, some v, some w => simp at hnull
  | some u, none, some w =>
    simp only [StableSort.notAbove, compareValues] at huv hvw
    cases hnulls : k.nulls with
    | first => simp [hnulls, NullPlacement.nullToValue] at huv
    | last => simp [hnulls, NullPlacement.nullToValue] at hvw
  | some u, some v, none => exact hvw
  | some u, none, none => exact huv
  | none, some v, some w => exact huv
  | none, none, some w => exact hvw
  | none, _, none => rfl

theorem exists_compareValues_toward {k : PathKey} {v w : Option Value} {o : Ordering}
    (d : Direction) (h : k.compareValues v w = .ok o) :
    ∃ o', (k.toward d).compareValues v w = .ok o' := by
  match v, w with
  | none, none => exact ⟨_, rfl⟩
  | none, some w => exact ⟨_, rfl⟩
  | some v, none => exact ⟨_, rfl⟩
  | some v, some w =>
    obtain ⟨r, hr, -⟩ := map_eq_ok_iff.mp h
    exact ⟨d.apply r, map_eq_ok_iff.mpr ⟨r, hr, rfl⟩⟩

theorem findsNull_of_ok {k : PathKey} {r : Record} {v : Option Value}
    (h : k.path.path.resolve r = .ok v) : k.findsNull r = v.isNone := by
  rw [findsNull, h]
  cases v <;> rfl

theorem findsNull_iff {k : PathKey} {r : Record} :
    k.findsNull r = true ↔ k.path.path.resolve r = .ok none := by
  unfold findsNull
  match k.path.path.resolve r with
  | .ok none => simp
  | .ok (some v) => simp
  | .error e => simp

end PathKey

namespace RecordOrder

variable {α : Type} [HasRecord α] {k : PathKey} {keys : List PathKey} {items sorted : List α}
  {x y : α} {v w : Option Value}

theorem compareItems_single (k : PathKey) (hx : k.path.path.resolve (toRecord x) = .ok v)
    (hy : k.path.path.resolve (toRecord y) = .ok w) :
    (⟨[k]⟩ : RecordOrder).compareItems x y = k.compareValues v w :=
  (compare_single k _ _).trans (PathKey.compareVia_of_ok hx hy)

theorem resolved_of_ranks
    (h : StableSort.Ranks (⟨k :: keys⟩ : RecordOrder).compareItems (· ∈ items)) (hx : x ∈ items) :
    ∃ found, k.path.path.resolve (toRecord x) = .ok found := by
  obtain ⟨o, hself, -⟩ := h.swap hx hx
  rw [compareItems_cons k keys x x] at hself
  cases hfirst : (⟨[k]⟩ : RecordOrder).compareItems x x with
  | error e =>
    rw [hfirst] at hself
    cases hself
  | ok o' =>
    have hkey : (k.compareVia .plain (toRecord x) (toRecord x)).run = .ok o' :=
      (compare_single k _ _).symm.trans hfirst
    obtain ⟨v, -, hv, -, -⟩ := PathKey.exists_of_compareVia hkey
    exact ⟨v, hv⟩

theorem value_of_ranks (h : StableSort.Ranks (⟨k :: keys⟩ : RecordOrder).compareItems (· ∈ items))
    (hx : x ∈ items ∧ k.findsNull (toRecord x) = false) :
    ∃ v, k.path.path.resolve (toRecord x) = .ok (some v) := by
  obtain ⟨found, hfound⟩ := resolved_of_ranks h hx.1
  have hvalue := hx.2
  rw [PathKey.findsNull_of_ok hfound] at hvalue
  cases found with
  | none => cases hvalue
  | some v => exact ⟨v, hfound⟩

/-! ## Nulls at one end -/

theorem notAbove_of_null (hx : k.path.path.resolve (toRecord x) = .ok v)
    (hy : k.path.path.resolve (toRecord y) = .ok w) (hnull : v.isNone ≠ w.isNone) :
    (⟨k :: keys⟩ : RecordOrder).notAbove x y = (v.isNone == (k.nulls == .first)) := by
  have hfirst := compareItems_single k hx hy
  have hcons := compareItems_cons k keys x y
  rw [hfirst] at hcons
  rw [notAbove, StableSort.notAbove, hcons]
  cases v <;> cases w
  case none.none => exact absurd rfl hnull
  case some.some => exact absurd rfl hnull
  all_goals
    simp only [PathKey.compareValues]
    cases k.nulls <;> rfl

theorem eq_place_of_sorted
    (h : StableSort.Ranks (⟨k :: keys⟩ : RecordOrder).compareItems (· ∈ items))
    (hs : StablySorted (⟨k :: keys⟩ : RecordOrder).notAbove items sorted) :
    sorted = k.nulls.place (sorted.filter fun x => k.findsNull (toRecord x))
      (sorted.filter fun x => !k.findsNull (toRecord x)) := by
  have hends {x y : α} (hx : x ∈ sorted) (hy : y ∈ sorted)
      (hxy : (⟨k :: keys⟩ : RecordOrder).notAbove x y = true)
      (hne : k.findsNull (toRecord x) ≠ k.findsNull (toRecord y)) :
      k.findsNull (toRecord x) = (k.nulls == .first) := by
    obtain ⟨v, hv⟩ := resolved_of_ranks h (hs.perm.mem_iff.mp hx)
    obtain ⟨w, hw⟩ := resolved_of_ranks h (hs.perm.mem_iff.mp hy)
    rw [PathKey.findsNull_of_ok hv, PathKey.findsNull_of_ok hw] at hne
    rw [notAbove_of_null hv hw hne, beq_iff_eq] at hxy
    rwa [PathKey.findsNull_of_ok hv]
  have happend := filter_append_filter_not (l := sorted)
    (p := fun x => k.findsNull (toRecord x) == (k.nulls == .first))
    (hs.pairwise.imp_of_mem fun {x y} hx hy hxy hfront => ?_)
  · have hlast : (NullPlacement.last == .first) = false := rfl
    cases hnulls : k.nulls <;> simpa [hnulls, hlast, NullPlacement.place] using happend.symm
  · rw [beq_iff_eq] at hfront ⊢
    by_contra hbehind
    exact hbehind (hends hx hy hxy fun heq => hbehind (heq.trans hfront))

/-! ## Directions -/

theorem notAbove_single (k : PathKey) (hx : k.path.path.resolve (toRecord x) = .ok v)
    (hy : k.path.path.resolve (toRecord y) = .ok w) :
    (⟨[k]⟩ : RecordOrder).notAbove x y = StableSort.notAbove k.compareValues v w := by
  rw [notAbove, StableSort.notAbove, compareItems_single k hx hy]
  rfl

section

variable {v w : Value} {d : Direction}

theorem notAbove_descending (hx : k.path.path.resolve (toRecord x) = .ok (some v))
    (hy : k.path.path.resolve (toRecord y) = .ok (some w)) :
    (⟨[k.toward .descending]⟩ : RecordOrder).notAbove x y =
      (⟨[k.toward .ascending]⟩ : RecordOrder).notAbove y x := by
  have hvalues := v.compare_reversed (fun _ => False) w
  rw [notAbove_single (k.toward .descending) hx hy, notAbove_single (k.toward .ascending) hy hx,
    StableSort.notAbove, StableSort.notAbove, PathKey.compareValues, PathKey.compareValues]
  generalize v.compare w = a at hvalues ⊢
  generalize w.compare v = b at hvalues ⊢
  cases hvalues with
  | ordered o => cases o <;> rfl
  | incomparable left right => rfl
  | unread h => exact h.elim

theorem notAbove_opposite (hd : d ≠ k.direction)
    (hx : k.path.path.resolve (toRecord x) = .ok (some v))
    (hy : k.path.path.resolve (toRecord y) = .ok (some w)) :
    (⟨[k.toward d]⟩ : RecordOrder).notAbove x y = (⟨[k]⟩ : RecordOrder).notAbove y x := by
  have hkey : k = k.toward k.direction := rfl
  rw [hkey]
  generalize k.direction = d' at hd
  cases d <;> cases d'
  case ascending.descending => exact (notAbove_descending hy hx).symm
  case descending.ascending => exact notAbove_descending hx hy
  all_goals exact absurd rfl hd

end

theorem ranks_toward (h : StableSort.Ranks (⟨[k]⟩ : RecordOrder).compareItems (· ∈ items))
    (d : Direction) :
    StableSort.Ranks (⟨[k.toward d]⟩ : RecordOrder).compareItems (· ∈ items) := by
  refine ⟨fun {x y} hx hy => ?_, fun {x y z} hx hy hz hxy hyz => ?_⟩
  · obtain ⟨v, hv⟩ := resolved_of_ranks h hx
    obtain ⟨w, hw⟩ := resolved_of_ranks h hy
    obtain ⟨o, ho, -⟩ := h.swap hx hy
    rw [compareItems_single k hv hw] at ho
    rw [compareItems_single (k.toward d) hv hw, compareItems_single (k.toward d) hw hv]
    obtain ⟨o', ho'⟩ := PathKey.exists_compareValues_toward d ho
    exact ⟨o', ho', (PathKey.compareValues_reversed (fun _ => False) _ v w).eq_ok ho'⟩
  · by_cases hd : d = k.direction
    · subst hd
      exact h.trans hx hy hz hxy hyz
    change (⟨[k.toward d]⟩ : RecordOrder).notAbove x y = true at hxy
    change (⟨[k.toward d]⟩ : RecordOrder).notAbove y z = true at hyz
    change (⟨[k.toward d]⟩ : RecordOrder).notAbove x z = true
    obtain ⟨u, hu⟩ := resolved_of_ranks h hx
    obtain ⟨v, hv⟩ := resolved_of_ranks h hy
    obtain ⟨w, hw⟩ := resolved_of_ranks h hz
    by_cases hnull : u = none ∨ v = none ∨ w = none
    · rw [notAbove_single (k.toward d) hu hv] at hxy
      rw [notAbove_single (k.toward d) hv hw] at hyz
      rw [notAbove_single (k.toward d) hu hw]
      exact PathKey.notAbove_trans_of_null hnull hxy hyz
    · simp only [not_or, ← ne_eq, Option.ne_none_iff_exists'] at hnull
      obtain ⟨⟨u, rfl⟩, ⟨v, rfl⟩, w, rfl⟩ := hnull
      rw [notAbove_opposite hd hu hv] at hxy
      rw [notAbove_opposite hd hv hw] at hyz
      rw [notAbove_opposite hd hu hw]
      exact h.trans hz hy hx hyz hxy

/-! ## Groups of equal keys -/

/-- A sort by one key puts the nulls as they stand beside the sorted values. -/
theorem sort_eq_place {values : List α}
    (h : StableSort.Ranks (⟨[k]⟩ : RecordOrder).compareItems (· ∈ items))
    (hvalues : StablySorted (⟨[k]⟩ : RecordOrder).notAbove
      (items.filter fun x => !k.findsNull (toRecord x)) values) :
    (⟨[k]⟩ : RecordOrder).sort items =
      .ok (k.nulls.place (items.filter fun x => k.findsNull (toRecord x)) values) := by
  obtain ⟨sorted, hsorted, hs⟩ := sort_sortsStably ⟨[k]⟩ items h
  have hpre := h.preorderOn
  have hkept (p : α → Bool) : PreorderOn (⟨[k]⟩ : RecordOrder).notAbove (· ∈ items.filter p) :=
    hpre.mono fun _ hx => (List.mem_filter.mp hx).1
  have hnulls : (items.filter fun x => k.findsNull (toRecord x)).Pairwise
      ((⟨[k]⟩ : RecordOrder).notAbove · ·) := by
    refine List.pairwise_of_forall_mem_list fun x hx y hy => ?_
    have hx := PathKey.findsNull_iff.mp (List.mem_filter.mp hx).2
    have hy := PathKey.findsNull_iff.mp (List.mem_filter.mp hy).2
    rw [notAbove_single k hx hy]
    rfl
  rw [hsorted, eq_place_of_sorted h hs,
    (hs.filter _).unique (hkept _) (.of_pairwise hnulls), (hs.filter _).unique (hkept _) hvalues]

theorem tied_eq_findsEqual (h : StableSort.Ranks (⟨[k]⟩ : RecordOrder).compareItems (· ∈ items))
    (hx : x ∈ items) (hy : y ∈ items) (hvalue : k.findsNull (toRecord x) = false) :
    k.findsEqual (toRecord x) (toRecord y) =
      (!k.findsNull (toRecord y) && tied (⟨[k]⟩ : RecordOrder).notAbove x y) := by
  obtain ⟨v, hv⟩ := value_of_ranks h ⟨hx, hvalue⟩
  obtain ⟨w, hw⟩ := resolved_of_ranks h hy
  rw [PathKey.findsEqual, PathKey.found_of_ok hv, PathKey.found_of_ok hw,
    PathKey.findsNull_of_ok hw]
  cases w with
  | none => rfl
  | some w =>
    obtain ⟨o, hxy, hyx⟩ := h.swap hx hy
    have hle : (⟨[k]⟩ : RecordOrder).notAbove x y = (o != .gt) := StableSort.notAbove_of_ok hxy
    have hge : (⟨[k]⟩ : RecordOrder).notAbove y x = (o.swap != .gt) :=
      StableSort.notAbove_of_ok hyx
    rw [compareItems_single k hv hw] at hxy
    obtain ⟨r, hr, rfl⟩ := map_eq_ok_iff.mp hxy
    have hsame : (v == w) = (r == .eq) :=
      Bool.eq_iff_iff.mpr ((Value.eq_iff_same_of_compare hr).symm.trans beq_iff_eq.symm)
    simp only [Option.isNone_some, Bool.not_false, Bool.true_and, hsame, tied, hle, hge]
    cases k.direction <;> cases r <;> rfl

theorem exists_groups (h : StableSort.Ranks (⟨[k]⟩ : RecordOrder).compareItems (· ∈ items)) :
    ∃ groups : List (List α),
      (⟨[k.toward .ascending]⟩ : RecordOrder).sort items =
        .ok (k.nulls.place (items.filter fun x => k.findsNull (toRecord x)) groups.flatten) ∧
      (⟨[k.toward .descending]⟩ : RecordOrder).sort items =
        .ok (k.nulls.place (items.filter fun x => k.findsNull (toRecord x))
          groups.reverse.flatten) ∧
      (∀ g ∈ groups, g ≠ [] ∧ ∀ z ∈ g, k.findsNull (toRecord z) = false ∧
        g = items.filter fun x => k.findsEqual (toRecord z) (toRecord x)) ∧
      groups.Pairwise fun g g' => ∀ x ∈ g, ∀ y ∈ g',
        (⟨[k.toward .ascending]⟩ : RecordOrder).compareItems x y = .ok .lt := by
  have hup := ranks_toward h .ascending
  have hdown := ranks_toward h .descending
  let values := items.filter fun x => !k.findsNull (toRecord x)
  have hmem {x : α} (hx : x ∈ values) : x ∈ items ∧ k.findsNull (toRecord x) = false := by
    simpa [values] using hx
  have hpre : PreorderOn (⟨[k.toward .ascending]⟩ : RecordOrder).notAbove (· ∈ values) :=
    hup.preorderOn.mono fun _ hx => (hmem hx).1
  have hs := StablySorted.mergeSort hpre
  obtain ⟨groups, hflatten, hne, hgroups⟩ :=
    Grouped.exists_of_pairwise hpre (fun _ hx => hs.perm.mem_iff.mp hx) hs.pairwise
  rw [← hflatten] at hs
  have hmem' {g : List α} (hg : g ∈ groups) {x : α} (hx : x ∈ g) :
      x ∈ items ∧ k.findsNull (toRecord x) = false :=
    hmem (hs.perm.mem_iff.mp (List.mem_flatten.mpr ⟨g, hg, hx⟩))
  have hopposite : StablySorted (⟨[k.toward .descending]⟩ : RecordOrder).notAbove values
      groups.reverse.flatten := by
    refine (hs.opposite hgroups).congr fun x hx y hy => ?_
    obtain ⟨v, hv⟩ := value_of_ranks h (hmem hx)
    obtain ⟨w, hw⟩ := value_of_ranks h (hmem hy)
    exact (notAbove_descending hv hw).symm
  refine ⟨groups, sort_eq_place hup hs, sort_eq_place hdown hopposite,
    fun g hg => ⟨fun hnil => hne (hnil ▸ hg), fun z hz => ⟨(hmem' hg hz).2, ?_⟩⟩, ?_⟩
  · have hties := hs.ties z (hs.perm.mem_iff.mp (List.mem_flatten.mpr ⟨g, hg, hz⟩))
    rw [hgroups.filter_tied hg hz] at hties
    rw [hties, List.filter_filter]
    refine List.filter_congr fun x hx => ?_
    exact (Bool.and_comm _ _).trans (tied_eq_findsEqual hup (hmem' hg hz).1 hx (hmem' hg hz).2).symm
  · refine hgroups.between.imp_of_mem fun {g g'} hg hg' hbetween x hx y hy => ?_
    obtain ⟨o, hxy, hyx⟩ := hup.swap (hmem' hg hx).1 (hmem' hg' hy).1
    have habove : (o.swap != .gt) = false :=
      (StableSort.notAbove_of_ok hyx).symm.trans (hbetween x hx y hy).2
    rw [hxy]
    cases o <;> first | rfl | cases habove

theorem SortsStably.eq_sort {sort' : RecordOrder → List α → Except QueryError (List α)}
    (hsort : SortsStably sort') {o : RecordOrder}
    (h : StableSort.Ranks o.compareItems (· ∈ items)) : sort' o items = o.sort items := by
  obtain ⟨sorted, hsorted, hs⟩ := hsort o items h
  obtain ⟨sorted', hsorted', hs'⟩ := sort_sortsStably o items h
  rw [hsorted, hsorted', hs.unique h.preorderOn hs']

/-- A sort puts the items whose first key is null together, at the end that the key says and
whatever its direction. -/
theorem sort_gathers_nulls (k : PathKey) (keys : List PathKey) (items : List α)
    (h : StableSort.Ranks (⟨k :: keys⟩ : RecordOrder).compareItems (· ∈ items)) :
    let isNull (x : α) : Bool := k.findsNull (toRecord x)
    let upward : RecordOrder := ⟨[k.toward .ascending]⟩
    let downward : RecordOrder := ⟨[k.toward .descending]⟩
    (∃ sorted, (⟨k :: keys⟩ : RecordOrder).sort items = .ok sorted ∧ sorted.Perm items ∧
      sorted = k.nulls.place (sorted.filter isNull) (sorted.filter (!isNull ·))) ∧
    (keys = [] → ∃ groups : List (List α),
      upward.sort items = .ok (k.nulls.place (items.filter isNull) groups.flatten) ∧
      downward.sort items = .ok (k.nulls.place (items.filter isNull) groups.reverse.flatten) ∧
      (∀ g ∈ groups, g ≠ [] ∧ ∀ z ∈ g, isNull z = false ∧
        g = items.filter fun x => k.findsEqual (toRecord z) (toRecord x)) ∧
      groups.Pairwise fun g g' => ∀ x ∈ g, ∀ y ∈ g', upward.compareItems x y = .ok .lt) ∧
    SortsStably (sort (α := α)) ∧ ∀ sort' : RecordOrder → List α → Except QueryError (List α),
      SortsStably sort' → sort' ⟨k :: keys⟩ items = (⟨k :: keys⟩ : RecordOrder).sort items ∧
        (keys = [] → ∀ o ∈ [upward, downward], sort' o items = o.sort items) := by
  intro isNull upward downward
  obtain ⟨sorted, hsorted, hs⟩ := sort_sortsStably ⟨k :: keys⟩ items h
  refine ⟨⟨sorted, hsorted, hs.perm, eq_place_of_sorted h hs⟩, ?_, sort_sortsStably,
    fun sort' hsort => ⟨hsort.eq_sort h, ?_⟩⟩
  · rintro rfl
    exact exists_groups h
  · rintro rfl
    rw [List.forall_mem_cons, List.forall_mem_singleton]
    exact ⟨hsort.eq_sort (ranks_toward h .ascending), hsort.eq_sort (ranks_toward h .descending)⟩

/-- Two nulls and two equal keys keep their places in both directions. -/
theorem sort_gathers_nulls_last :
    let k : PathKey := ⟨⟨1, ⟨"x", by decide⟩⟩, .descending, .last⟩
    let record (x : Value) (n : Bool) : Record := ⟨⟨0, "T", ["x", "n"]⟩, [x, .bool n]⟩
    let items := [record .null true, record (.bool true) true, record (.bool false) true,
      record .null false, record (.bool true) false]
    StableSort.Ranks (⟨[k]⟩ : RecordOrder).compareItems (· ∈ items) ∧
      (⟨[k]⟩ : RecordOrder).sort items = .ok [record (.bool true) true, record (.bool true) false,
        record (.bool false) true, record .null true, record .null false] ∧
      ∃ groups : List (List Record),
        (⟨[k.toward .ascending]⟩ : RecordOrder).sort items =
          .ok (groups.flatten ++ [record .null true, record .null false]) ∧
        (⟨[k.toward .descending]⟩ : RecordOrder).sort items =
          .ok (groups.reverse.flatten ++ [record .null true, record .null false]) := by
  intro k record items
  have hranks : StableSort.Ranks (⟨[k]⟩ : RecordOrder).compareItems (· ∈ items) := by
    refine .of_rank (fun r => (r.valueAt 0).toBool?.elim 2 fun b => if b then 0 else 1) ?_
    simp only [items, List.mem_cons, List.not_mem_nil, or_false]
    rintro x y (rfl | rfl | rfl | rfl | rfl) (rfl | rfl | rfl | rfl | rfl) <;> cbv
  have hnulls : items.filter (fun r => k.findsNull (toRecord r)) =
      [record .null true, record .null false] := by cbv
  obtain ⟨-, hgroups, -⟩ := sort_gathers_nulls k [] items hranks
  obtain ⟨groups, hup, hdown, -⟩ := hgroups rfl
  rw [hnulls] at hup hdown
  exact ⟨hranks, by cbv, groups, hup, hdown⟩

end RecordOrder

end RecordQuery
