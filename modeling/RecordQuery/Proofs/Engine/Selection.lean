import RecordQuery.Proofs.Engine.History

/-!
# Selections

An engine sorts all records of a keyspace and filters afterwards. Where neither fails, that comes
to filtering first, sorting what is left, and taking the window of it.
-/

namespace RecordQuery

namespace Query

variable {α : Type} [HasRecord α]

def holds (q : Query) (x : α) : Bool :=
  match q.accepts (toRecord x) with
  | .ok b => b
  | .error _ => false

theorem keepVia_eq_filter {q : Query} {items : List α}
    (h : ∀ x ∈ items, ∃ b, q.accepts (toRecord x) = .ok b) :
    (keepVia .plain q.filter items).run = .ok (items.filter q.holds) := by
  induction items with
  | nil => rfl
  | cons x items ih =>
    obtain ⟨⟨b, hb⟩, hitems⟩ := List.forall_mem_cons.mp h
    have haccepts : (Filter.acceptsVia .plain q.filter (toRecord x)).run = .ok b := hb
    have hholds : q.holds x = b := by rw [holds, hb]
    rw [keepVia, ExceptT.run_bind, haccepts, List.filter_cons, hholds]
    change ExceptT.run (keepVia .plain q.filter items >>= _) = _
    rw [ExceptT.run_bind, ih hitems]
    cases b <;> rfl

end Query

namespace RecordOrder

variable {α : Type} [HasRecord α]

def compareItems (o : RecordOrder) (a b : α) : Except QueryError Ordering :=
  o.compare (toRecord a) (toRecord b)

def notAbove (o : RecordOrder) : α → α → Bool := StableSort.notAbove o.compareItems

theorem notAbove_of_trivial {o : RecordOrder} (h : o.isTrivial = true) (a b : α) :
    o.notAbove a b = true := by
  obtain ⟨keys⟩ := o
  cases List.isEmpty_iff.mp h
  rfl

theorem mergeSort_of_trivial {o : RecordOrder} (h : o.isTrivial = true) (items : List α) :
    items.mergeSort o.notAbove = items :=
  List.mergeSort_of_pairwise
    (List.pairwise_of_forall fun a b => notAbove_of_trivial h a b)

theorem sortVia_eq_mergeSort {o : RecordOrder} {items : List α}
    (h : StableSort.Ranks o.compareItems (· ∈ items)) :
    (Query.sortVia .plain o items).run = .ok (items.mergeSort o.notAbove) := by
  unfold Query.sortVia
  split
  · rename_i htrivial
    rw [mergeSort_of_trivial htrivial]
    rfl
  · exact StableSort.sort_eq_mergeSort h

end RecordOrder

namespace Query

variable {α : Type} [HasRecord α]

/-- Sorting and filtering comes to filtering and sorting. -/
theorem selectVia_eq_window {q : Query} {o : RecordOrder} {items : List α}
    (hfilter : ∀ x ∈ items, ∃ b, q.accepts (toRecord x) = .ok b)
    (horder : StableSort.Ranks o.compareItems (· ∈ items)) :
    (q.selectVia .plain o items).run =
      .ok (q.window ((items.filter q.holds).mergeSort o.notAbove)) := by
  have hsorted : ∀ x ∈ items.mergeSort o.notAbove, ∃ b, q.accepts (toRecord x) = .ok b :=
    fun x hx => hfilter x (List.mem_mergeSort.mp hx)
  have hpre : PreorderOn o.notAbove (· ∈ items) := horder.preorderOn
  unfold selectVia
  rw [ExceptT.run_bind, RecordOrder.sortVia_eq_mergeSort horder]
  change ExceptT.run (keepVia .plain q.filter (items.mergeSort o.notAbove) >>= _) = _
  rw [ExceptT.run_bind, keepVia_eq_filter hsorted]
  rw [StablySorted.filter_mergeSort hpre]
  rfl

omit [HasRecord α] in
theorem window_eq (q : Query) (results : List α) :
    q.window results =
      let rest := if 0 ≤ q.offset then results.drop q.offset.toInt.toNat else results
      if 0 ≤ q.rows then rest.take q.rows.toInt.toNat else rest := by
  have hcount (word : Int64) :
      countOf? word = if 0 ≤ word then some word.toInt.toNat else none := by
    unfold countOf?
    by_cases h : word < 0
    · rw [if_pos h, if_neg (Int64.not_le.mpr h)]
    · rw [if_neg h, if_pos (Int64.not_lt.mp h)]
  unfold window offset? limit?
  rw [hcount, hcount]
  by_cases hoffset : 0 ≤ q.offset <;> by_cases hrows : 0 ≤ q.rows <;> simp [hoffset, hrows]

end Query

namespace Engine

variable {σ α : Type} [RecordSource σ α] [HasRecord α] {c : Catalog}

theorem select_eq_selectVia {e : Engine σ} (he : e.Sound c) {source : σ}
    (hsource : e.source = some source) (q : Query) (keyspace : String) {o : RecordOrder}
    (ho : ((order q.keys).run.run e).1 = .ok o) :
    ((select q keyspace).run.run e).1 =
      (q.selectVia .plain o (RecordSource.items source keyspace)).run := by
  have hsound := RecordOrder.ofKeys_keepsSound c q.keys e.paths he.memory
  have hmade : ((RecordOrder.ofKeys q.keys).run.run e.paths).1 = .ok o := ho
  rw [select_run hsource, withPaths_run, ExceptT.run_bind, StateT.run_bind]
  generalize (RecordOrder.ofKeys q.keys).run.run e.paths = made at hsound hmade ⊢
  obtain ⟨_ | o', g⟩ := made
  · cases hmade
  · cases hmade
    exact (q.selectVia_yields rfl (he.source source hsource keyspace) g.memory hsound).1

theorem isTrivial_of_order_nil {e : Engine σ} {o : RecordOrder}
    (ho : ((order []).run.run e).1 = .ok o) : o.isTrivial = true := by
  cases ho
  rfl

/-- Where the filter and the order do not fail and the order is a total preorder, an engine gives
the matching records in stable order, from the offset on and so many at most. -/
theorem select_eq_filter_sort_window [Regex.Library] (c : Catalog) (initial : Option σ)
    (history : List (Event σ))
    (hinitial : ∀ source ∈ initial, SourceConforms c source)
    (hhistory : ∀ event ∈ history, event.Conforms c) (q : Query) (keyspace : String) (source : σ)
    (hsource : firstSource initial history = some source) (items : List α)
    (hitems : Scan.Lists (RecordSource.scan? source keyspace) items) (o : RecordOrder)
    (ho : ((order q.keys).run.run (after initial history)).1 = .ok o)
    (hfilter : ∀ x ∈ items, ∃ b, q.accepts (toRecord x) = .ok b)
    (horder : StableSort.Ranks o.compareItems (· ∈ items)) :
    let kept := items.filter q.holds
    let sorted := kept.mergeSort o.notAbove
    let rest := if 0 ≤ q.offset then sorted.drop q.offset.toInt.toNat else sorted
    ((select q keyspace).run.run (after initial history)).1 =
        .ok (if 0 ≤ q.rows then rest.take q.rows.toInt.toNat else rest) ∧
      StablySorted o.notAbove kept sorted ∧ (q.keys = [] → sorted = kept) := by
  intro kept sorted rest
  have hsound : (after initial history).Sound c := after_sound hinitial hhistory
  have hpre : PreorderOn o.notAbove (· ∈ kept) :=
    PreorderOn.mono horder.preorderOn fun _ hx => (List.mem_filter.mp hx).1
  refine ⟨?_, .mergeSort hpre, fun hkeys => ?_⟩
  · rw [select_eq_selectVia hsound ((after_source initial history).trans hsource) q keyspace ho,
      hitems.items, Query.selectVia_eq_window hfilter horder, Query.window_eq]
  · rw [hkeys] at ho
    exact RecordOrder.mergeSort_of_trivial (isTrivial_of_order_nil ho) kept

/-- Of three records two match. They are sorted, and the first one is skipped. -/
theorem select_eq_filter_sort_window_skipping :
    let c : Catalog := fun _ => ["a", "b"]
    let record (a b : Bool) : Record := ⟨⟨0, "T", ["a", "b"]⟩, [.bool a, .bool b]⟩
    let items := [record true true, record false false, record false true]
    let store : MemoryStore Record := MemoryStore.empty.putAll "k" items
    let path : PropertyPath := ⟨"b", by decide⟩
    let q : Query :=
      { filter := some (.leaf ⟨path, .isTrue, false, [], .isBool true⟩)
        keys := [⟨"a", .ascending, .first⟩], offset := 1, rows := 5 }
    (∀ source ∈ some store, SourceConforms c source) ∧
      ((select q "k").run.run (after (some store) [])).1.map (List.map Record.values) =
        .ok [[.bool true, .bool true]] := by
  intro c record items store path q
  have hstore : ∀ source ∈ some store, SourceConforms c source := by
    intro source hsource
    cases hsource
    refine (empty_conforms c).putAll "k" ?_
    simp [items, record, c, Record.Conforms, Record.toValue, Value.Conforms, allConform]
  have hlists : Scan.Lists (RecordSource.scan? store "k") items := by
    refine .inr (.inr (.inl ?_))
    simp [RecordSource.scan?, store, MemoryStore.get?_putAll]
  let o : RecordOrder := ⟨[⟨⟨1, ⟨"a", by decide⟩⟩, .ascending, .first⟩]⟩
  have ho : ((order q.keys).run.run (after (some store) [])).1 = .ok o := by cbv
  have hfilter : ∀ x ∈ items, ∃ b, q.accepts (toRecord x) = .ok b := by
    simp only [items, List.forall_mem_cons]
    exact ⟨⟨true, by cbv⟩, ⟨false, by cbv⟩, ⟨true, by cbv⟩, by simp⟩
  have horder : StableSort.Ranks o.compareItems (· ∈ items) := by
    refine .of_rank (fun r => if r.valueAt 0 |>.toBool? |>.getD false then 1 else 0) ?_
    simp only [items, List.mem_cons, List.not_mem_nil, or_false]
    rintro a b (rfl | rfl | rfl) (rfl | rfl | rfl) <;> cbv
  refine ⟨hstore, ?_⟩
  rw [(select_eq_filter_sort_window c (some store) [] hstore (by simp) q "k" store rfl items hlists
    o ho hfilter horder).1]
  cbv

end Engine

end RecordQuery
