import RecordQuery.Proofs.Engine.Selection
import RecordQuery.Proofs.Order.Sortable

/-!
# Sorting key by key

A stable sort by one relation keeps what a sort by another has done wherever it does not tell items
apart. So an order by several keys is sorted by sorting with one key after the other, the deciding
one last. Any stable sort will do, since there is only one result.
-/

namespace RecordQuery

variable {α : Type}

/-- A relation, refined by another one among the items that it ties. -/
def refinedBy (le le' : α → α → Bool) (a b : α) : Bool := le a b && (!le b a || le' a b)

section

variable {le le' : α → α → Bool} {P : α → Prop} {a b : α}

theorem refinedBy_iff :
    refinedBy le le' a b = true ↔ le a b = true ∧ (le b a = true → le' a b = true) := by
  rw [refinedBy, Bool.and_eq_true]
  cases le b a <;> simp

theorem tied_refinedBy : tied (refinedBy le le') a b = (tied le a b && tied le' a b) := by
  rw [Bool.eq_iff_iff]
  simp only [tied, Bool.and_eq_true, refinedBy_iff]
  tauto

theorem PreorderOn.refine (h : PreorderOn le P) (h' : PreorderOn le' P) :
    PreorderOn (refinedBy le le') P := by
  refine ⟨fun {a b} ha hb => ?_, fun {a b c} ha hb hc hab hbc => ?_⟩
  · simp only [refinedBy_iff]
    rcases h.total ha hb with hle | hle <;> rcases h'.total ha hb with hle' | hle' <;> tauto
  · rw [refinedBy_iff] at hab hbc ⊢
    refine ⟨h.trans ha hb hc hab.1 hbc.1, fun hca => ?_⟩
    have hba := h.trans hb hc ha hbc.1 hca
    have hcb := h.trans hc ha hb hca hab.1
    exact h'.trans ha hb hc (hab.2 hba) (hbc.2 hcb)

/-- What has been sorted by one relation and is sorted by another is sorted by this one, then by the
first. -/
theorem StablySorted.refine {items once twice : List α} (h : PreorderOn le P)
    (hitems : ∀ x ∈ items, P x) (hs' : StablySorted le' items once)
    (hs : StablySorted le once twice) (h' : PreorderOn le' P) :
    StablySorted (refinedBy le le') items twice := by
  have hperm : twice.Perm items := hs.perm.trans hs'.perm
  have honce : ∀ x ∈ once, P x := fun x hx => hitems x (hs'.perm.mem_iff.mp hx)
  refine ⟨hperm, List.pairwise_iff_forall_sublist.mpr fun {a b} hab => ?_, fun z hz => ?_⟩
  · have hle : le a b = true := List.pairwise_iff_forall_sublist.mp hs.pairwise hab
    rw [refinedBy_iff]
    refine ⟨hle, fun hge => ?_⟩
    -- tied items stand as the first sort has left them
    have ha : P a := hitems a (hperm.mem_iff.mp (hab.subset List.mem_cons_self))
    have hties := hs.ties_of h honce ha
    have hkept := hab.filter (tied le a)
    have hself : tied le a a = true := h.tied_self ha
    have htied : tied le a b = true := by rw [tied, hle, hge, Bool.and_self]
    rw [hties, List.filter_cons_of_pos hself, List.filter_cons_of_pos htied] at hkept
    exact List.pairwise_iff_forall_sublist.mp hs'.pairwise (hkept.trans List.filter_sublist)
  · have hPz : P z := hitems z hz
    have hsplit (l : List α) : l.filter (tied (refinedBy le le') z) =
        (l.filter (tied le z)).filter (tied le' z) := by
      rw [List.filter_comm, List.filter_filter]
      exact List.filter_congr fun x _ => tied_refinedBy
    rw [hsplit, hs.ties_of h honce hPz, List.filter_comm, hs'.ties_of h' hitems hPz,
      List.filter_comm, ← hsplit]

end

namespace StableSort

variable {ε : Type} {cmp cmp' both : α → α → Except ε Ordering} {P : α → Prop}

/-- Compares by a second comparison what a first one finds equal. -/
def Lexicographic (cmp cmp' both : α → α → Except ε Ordering) : Prop :=
  ∀ a b, both a b = match cmp a b with
    | .ok .eq => cmp' a b
    | result => result

theorem Lexicographic.notAbove_eq (hboth : Lexicographic cmp cmp' both) (h : Ranks cmp P)
    {a b : α} (ha : P a) (hb : P b) :
    notAbove both a b = refinedBy (notAbove cmp) (notAbove cmp') a b := by
  obtain ⟨o, hab, hba⟩ := h.swap ha hb
  rw [refinedBy, notAbove_of_ok hab, notAbove_of_ok hba, notAbove, hboth, hab]
  cases o with
  | eq => exact (Bool.true_and _).symm
  | lt => rfl
  | gt => rfl

theorem Lexicographic.ranks (hboth : Lexicographic cmp cmp' both) (h : Ranks cmp P)
    (h' : Ranks cmp' P) : Ranks both P := by
  refine ⟨fun {a b} ha hb => ?_, fun {a b c} ha hb hc hab hbc => ?_⟩
  · obtain ⟨o, hab, hba⟩ := h.swap ha hb
    rw [hboth, hboth, hab, hba]
    cases o with
    | eq => exact h'.swap ha hb
    | lt => exact ⟨.lt, rfl, rfl⟩
    | gt => exact ⟨.gt, rfl, rfl⟩
  · rw [hboth.notAbove_eq h ha hb] at hab
    rw [hboth.notAbove_eq h hb hc] at hbc
    rw [hboth.notAbove_eq h ha hc]
    exact (h.preorderOn.refine h'.preorderOn).trans ha hb hc hab hbc

end StableSort

/-! ## Orders by keys -/

namespace RecordOrder

variable [HasRecord α] {k : PathKey} {keys : List PathKey} {items : List α}

theorem compareItems_cons (k : PathKey) (keys : List PathKey) :
    StableSort.Lexicographic (compareItems (α := α) ⟨[k]⟩) (compareItems ⟨keys⟩)
      (compareItems ⟨k :: keys⟩) := by
  intro a b
  have hcons := compareKeys_run_cons k keys (toRecord a) (toRecord b)
  have hfirst : compareItems ⟨[k]⟩ a b = _ := compare_single k (toRecord a) (toRecord b)
  rw [hfirst]
  generalize (k.compareVia .plain (toRecord a) (toRecord b)).run = first at hcons ⊢
  obtain e | o := first
  · exact hcons
  · cases o <;> exact hcons

/-- The keys rank the items, each by itself. -/
def KeysRank (keys : List PathKey) (items : List α) : Prop :=
  ∀ k ∈ keys, StableSort.Ranks (⟨[k]⟩ : RecordOrder).compareItems (· ∈ items)

theorem KeysRank.ranks (h : KeysRank keys items) :
    StableSort.Ranks (⟨keys⟩ : RecordOrder).compareItems (· ∈ items) := by
  induction keys with
  | nil => exact .of_rank (fun _ => 0) fun _ _ _ _ => rfl
  | cons k keys ih =>
    obtain ⟨hk, hkeys⟩ := List.forall_mem_cons.mp h
    exact (compareItems_cons k keys).ranks hk (ih hkeys)

/-- Sorts stably by any order that ranks the items. -/
def SortsStably (sort : RecordOrder → List α → Except QueryError (List α)) : Prop :=
  ∀ (o : RecordOrder) (items : List α), StableSort.Ranks o.compareItems (· ∈ items) →
    ∃ sorted, sort o items = .ok sorted ∧ StablySorted o.notAbove items sorted

theorem sort_sortsStably : SortsStably (sort (α := α)) := fun _ _ h =>
  ⟨_, StableSort.sort_eq_mergeSort h, .mergeSort h.preorderOn⟩

/-- Sorts by one key after the other, by the last of them first. -/
def sortSuccessively (sort : RecordOrder → List α → Except QueryError (List α))
    (keys : List PathKey) (items : List α) : Except QueryError (List α) :=
  keys.foldrM (fun k sorted => sort ⟨[k]⟩ sorted) items

theorem sortSuccessively_spec {sort : RecordOrder → List α → Except QueryError (List α)}
    (hsort : SortsStably sort) (h : KeysRank keys items) :
    ∃ sorted, sortSuccessively sort keys items = .ok sorted ∧
      StablySorted (⟨keys⟩ : RecordOrder).notAbove items sorted := by
  induction keys with
  | nil =>
    refine ⟨items, rfl, .of_pairwise (List.pairwise_of_forall fun a b => ?_)⟩
    exact notAbove_of_trivial rfl a b
  | cons k keys ih =>
    obtain ⟨hk, hkeys⟩ := List.forall_mem_cons.mp h
    obtain ⟨once, honce, hs'⟩ := ih hkeys
    have hmem (x : α) (hx : x ∈ once) : x ∈ items := hs'.perm.mem_iff.mp hx
    obtain ⟨twice, htwice, hs⟩ := hsort ⟨[k]⟩ once (hk.mono hmem)
    refine ⟨twice, ?_, ?_⟩
    · rw [sortSuccessively, List.foldrM_cons]
      change sortSuccessively sort keys items >>= _ = _
      rw [honce]
      exact htwice
    · have hboth := StablySorted.refine hk.preorderOn (fun _ hx => hx) hs' hs
        (KeysRank.ranks hkeys).preorderOn
      exact hboth.congr fun a ha b hb => ((compareItems_cons k keys).notAbove_eq hk ha hb).symm

/-- Sorting by several keys comes to sorting by the last of them, then by the one before it, and so
on up to the first. -/
theorem sort_eq_sortSuccessively (keys : List PathKey) (items : List α)
    (h : KeysRank keys items) :
    ∃ sorted, (⟨keys⟩ : RecordOrder).sort items = .ok sorted ∧
      sortSuccessively sort keys items = .ok sorted ∧
      StablySorted (⟨keys⟩ : RecordOrder).notAbove items sorted ∧ (keys = [] → sorted = items) ∧
      SortsStably (sort (α := α)) ∧ ∀ sort' : RecordOrder → List α → Except QueryError (List α),
        SortsStably sort' →
          sort' ⟨keys⟩ items = .ok sorted ∧ sortSuccessively sort' keys items = .ok sorted := by
  have hranks := h.ranks
  obtain ⟨sorted, hsorted, hs⟩ := sort_sortsStably ⟨keys⟩ items hranks
  have hany {sort' : RecordOrder → List α → Except QueryError (List α)}
      (hsort : SortsStably sort') :
      sort' ⟨keys⟩ items = .ok sorted ∧ sortSuccessively sort' keys items = .ok sorted := by
    obtain ⟨atOnce, hatOnce, hs'⟩ := hsort ⟨keys⟩ items hranks
    obtain ⟨inTurn, hinTurn, hs''⟩ := sortSuccessively_spec hsort h
    rw [hatOnce, hinTurn, hs'.unique hranks.preorderOn hs, hs''.unique hranks.preorderOn hs]
    exact ⟨rfl, rfl⟩
  refine ⟨sorted, hsorted, (hany sort_sortsStably).2, hs, ?_, sort_sortsStably, fun _ => hany⟩
  rintro rfl
  exact (Except.ok.inj (hany sort_sortsStably).2).symm

/-- Two records are tied in the first key and stand the other way around in the second one, under
which one record is null. -/
theorem sort_eq_sortSuccessively_tied :
    let a : PathKey := ⟨⟨1, ⟨"a", by decide⟩⟩, .ascending, .first⟩
    let b : PathKey := ⟨⟨2, ⟨"b", by decide⟩⟩, .descending, .last⟩
    let record (a : Bool) (b : Value) : Record := ⟨⟨0, "T", ["a", "b"]⟩, [.bool a, b]⟩
    let items := [record true .null, record false (.bool false), record false (.bool true)]
    KeysRank [a, b] items ∧
      (⟨[a, b]⟩ : RecordOrder).sort items =
        .ok [record false (.bool true), record false (.bool false), record true .null] ∧
      sortSuccessively sort [a, b] items = (⟨[a, b]⟩ : RecordOrder).sort items := by
  intro a b record items
  have ha : StableSort.Ranks (⟨[a]⟩ : RecordOrder).compareItems (· ∈ items) := by
    refine .of_rank (fun r => if r.valueAt 0 |>.toBool? |>.getD false then 1 else 0) ?_
    simp only [items, List.mem_cons, List.not_mem_nil, or_false]
    rintro x y (rfl | rfl | rfl) (rfl | rfl | rfl) <;> cbv
  have hb : StableSort.Ranks (⟨[b]⟩ : RecordOrder).compareItems (· ∈ items) := by
    refine .of_rank (fun r => (r.valueAt 1).toBool?.elim 2 fun b => if b then 0 else 1) ?_
    simp only [items, List.mem_cons, List.not_mem_nil, or_false]
    rintro x y (rfl | rfl | rfl) (rfl | rfl | rfl) <;> cbv
  have hkeys : KeysRank [a, b] items :=
    List.forall_mem_cons.mpr ⟨ha, List.forall_mem_singleton.mpr hb⟩
  obtain ⟨sorted, hsorted, hinTurn, -⟩ := sort_eq_sortSuccessively [a, b] items hkeys
  exact ⟨hkeys, by cbv, hinTurn.trans hsorted.symm⟩

end RecordOrder

end RecordQuery
