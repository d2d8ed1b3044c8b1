import RecordQuery.Proofs.Engine.Selection
import RecordQuery.Proofs.Outcome

/-!
# Counts and selections

A count meets the records in the order of the source, a selection in the order of its keys. They
agree all the same: where both have a result, the count is the length of the whole selection, and
where the sort is done, the one fails exactly if the other does.
-/

namespace RecordQuery

namespace Query

variable {α : Type} [HasRecord α]

def keep (f : Option Filter) (items : List α) : Except QueryError (List α) :=
  (keepVia .plain f items).run

theorem keep_cons (f : Option Filter) (x : α) (items : List α) :
    keep f (x :: items) =
      (Filter.accepts f (toRecord x)).bind fun passed =>
        (keep f items).map fun kept => if passed then x :: kept else kept := by
  rw [keep, keepVia, run_bind_plain]
  refine congrArg (Except.bind _) (funext fun passed => ?_)
  rw [run_bind_plain, keep]
  generalize (keepVia .plain f items).run = kept
  cases kept <;> rfl

theorem countVia_eq_map_length (f : Option Filter) (items : List α) :
    (countVia .plain f items).run = (keep f items).map List.length := by
  suffices h : ∀ n, (items.foldlM (fun n x => do
      return if ← Filter.acceptsVia .plain f (toRecord x) then n + 1 else n) n :
      ExceptT QueryError Id Nat).run = (keep f items).map fun kept => kept.length + n from h 0
  intro n
  induction items generalizing n with
  | nil => exact congrArg Except.ok (Nat.zero_add n).symm
  | cons x items ih =>
    rw [keep_cons, List.foldlM_cons, bind_assoc, run_bind_plain]
    change Except.bind (Filter.accepts f (toRecord x)) _ = _
    cases Filter.accepts f (toRecord x) with
    | error e => rfl
    | ok passed =>
      refine (ih (if passed then n + 1 else n)).trans ?_
      simp only [Except.bind]
      cases keep f items with
      | error e => rfl
      | ok kept => cases passed <;> simp [Except.map, Nat.add_right_comm, Nat.add_assoc]

/-- The filter fails on an item with this error, and on none before it. -/
def FailsFirst (f : Option Filter) (items : List α) (e : QueryError) : Prop :=
  ∃ before x after, items = before ++ x :: after ∧
    (∀ y ∈ before, ∃ passed, Filter.accepts f (toRecord y) = .ok passed) ∧
    Filter.accepts f (toRecord x) = .error e

theorem failsFirst_cons {f : Option Filter} {x : α} {items : List α} {e : QueryError} :
    FailsFirst f (x :: items) e ↔ Filter.accepts f (toRecord x) = .error e ∨
      (∃ passed, Filter.accepts f (toRecord x) = .ok passed) ∧ FailsFirst f items e := by
  constructor
  · rintro ⟨before, y, after, hsplit, hbefore, hy⟩
    cases before with
    | nil =>
      cases hsplit
      exact .inl hy
    | cons z before =>
      cases hsplit
      obtain ⟨hz, hbefore⟩ := List.forall_mem_cons.mp hbefore
      exact .inr ⟨hz, before, y, after, rfl, hbefore, hy⟩
  · rintro (hx | ⟨hx, before, y, after, rfl, hbefore, hy⟩)
    · exact ⟨[], x, items, rfl, by simp, hx⟩
    · exact ⟨x :: before, y, after, rfl, List.forall_mem_cons.mpr ⟨hx, hbefore⟩, hy⟩

theorem keep_eq_error_iff {f : Option Filter} {items : List α} {e : QueryError} :
    keep f items = .error e ↔ FailsFirst f items e := by
  induction items with
  | nil =>
    refine ⟨(nomatch ·), ?_⟩
    rintro ⟨before, x, after, hsplit, -⟩
    simp at hsplit
  | cons x items ih =>
    rw [keep_cons, failsFirst_cons, ← ih]
    cases Filter.accepts f (toRecord x) with
    | error e' => simp [Except.bind]
    | ok passed => cases keep f items <;> simp [Except.bind, Except.map]

theorem exists_keep_iff {f : Option Filter} {items : List α} :
    (∃ kept, keep f items = .ok kept) ↔
      ∀ x ∈ items, ∃ passed, Filter.accepts f (toRecord x) = .ok passed := by
  induction items with
  | nil => exact ⟨fun _ => by simp, fun _ => ⟨[], rfl⟩⟩
  | cons x items ih =>
    rw [keep_cons, List.forall_mem_cons, ← ih]
    cases Filter.accepts f (toRecord x) with
    | error e => simp [Except.bind]
    | ok passed => cases keep f items <;> simp [Except.bind, Except.map]

/-- Items in another order are kept in the same number, if they can be kept at all. -/
theorem exists_keep_of_perm {f : Option Filter} {items sorted kept : List α}
    (hperm : sorted.Perm items) (h : keep f sorted = .ok kept) :
    ∃ kept', keep f items = .ok kept' ∧ kept'.length = kept.length := by
  let q : Query := { filter := f }
  have hsorted : ∀ x ∈ sorted, ∃ passed, q.accepts (toRecord x) = .ok passed :=
    exists_keep_iff.mp ⟨kept, h⟩
  have hitems : ∀ x ∈ items, ∃ passed, q.accepts (toRecord x) = .ok passed :=
    fun x hx => hsorted x (hperm.mem_iff.mpr hx)
  cases h.symm.trans (keepVia_eq_filter hsorted)
  exact ⟨_, keepVia_eq_filter hitems, ((hperm.filter q.holds).length_eq).symm⟩

theorem exists_keep_error_iff_of_perm {f : Option Filter} {items sorted : List α}
    (hperm : sorted.Perm items) :
    (∃ e, keep f sorted = .error e) ↔ ∃ e, keep f items = .error e := by
  simp only [exists_error_iff, exists_keep_iff, hperm.mem_iff]

theorem selectVia_plain (q : Query) (o : RecordOrder) (items : List α) :
    (q.selectVia .plain o items).run =
      Except.bind (sortVia .plain o items).run fun sorted =>
        (keep q.filter sorted).map q.window := by
  rw [selectVia, run_bind_plain]
  refine congrArg (Except.bind _) (funext fun sorted => ?_)
  rw [run_bind_plain, keep]
  generalize (keepVia .plain q.filter sorted).run = kept
  cases kept <;> rfl

omit [HasRecord α] in
theorem window_of_unbounded {q : Query} (hoffset : q.offset? = none) (hlimit : q.limit? = none)
    (results : List α) : q.window results = results := by
  rw [window, hoffset, hlimit]

omit [HasRecord α] in
theorem window_whole (f : Option Filter) (keys : List SortKey) (results : List α) :
    ({ filter := f, keys } : Query).window results = results :=
  window_of_unbounded rfl rfl results

omit [HasRecord α] in
theorem length_window (q : Query) (results : List α) :
    ((q.window results).length : Int) =
      let rest := max (results.length - max q.offset.toInt 0) 0
      if 0 ≤ q.rows then min rest q.rows.toInt else rest := by
  have hoffset : 0 ≤ q.offset ↔ 0 ≤ q.offset.toInt := Int64.le_iff_toInt_le
  have hrows : 0 ≤ q.rows ↔ 0 ≤ q.rows.toInt := Int64.le_iff_toInt_le
  have hrest : (((if 0 ≤ q.offset then results.drop q.offset.toInt.toNat
      else results).length : Nat) : Int) = max (results.length - max q.offset.toInt 0) 0 := by
    split <;> rename_i h <;> rw [hoffset] at h
    · rw [List.length_drop]
      omega
    · omega
  rw [window_eq]
  simp only
  rw [← hrest]
  split <;> rename_i h
  · rw [hrows] at h
    rw [List.length_take]
    omega
  · rfl

end Query

namespace Engine

variable {σ α : Type} [RecordSource σ α] [HasRecord α] {c : Catalog}

theorem select_eq_bind {e : Engine σ} (he : e.Sound c) {source : σ}
    (hsource : e.source = some source) (q : Query) (keyspace : String) :
    ((select q keyspace).run.run e).1 =
      ((order q.keys).run.run e).1.bind fun o =>
        Except.bind (Query.sortVia .plain o (RecordSource.items source keyspace)).run fun sorted =>
          (Query.keep q.filter sorted).map q.window := by
  cases ho : ((order q.keys).run.run e).1 with
  | ok o =>
    rw [select_eq_selectVia he hsource q keyspace ho, Query.selectVia_plain]
    rfl
  | error error =>
    have hmade : ((RecordOrder.ofKeys q.keys).run.run e.paths).1 = .error error := ho
    rw [select_run hsource, withPaths_run, ExceptT.run_bind, StateT.run_bind]
    generalize (RecordOrder.ofKeys q.keys).run.run e.paths = made at hmade
    obtain ⟨_ | o, g⟩ := made
    · cases hmade
      rfl
    · cases hmade

theorem select_of_sorted {e : Engine σ} (he : e.Sound c) {source : σ}
    (hsource : e.source = some source) (q : Query) (keyspace : String) {o : RecordOrder}
    {sorted : List α} (ho : ((order q.keys).run.run e).1 = .ok o)
    (hsort : (Query.sortVia .plain o (RecordSource.items source keyspace)).run = .ok sorted) :
    ((select q keyspace).run.run e).1 = (Query.keep q.filter sorted).map q.window := by
  rw [select_eq_bind he hsource, ho]
  simp only [Except.bind]
  rw [hsort]

theorem exists_sorted_of_select {e : Engine σ} (he : e.Sound c) {source : σ}
    (hsource : e.source = some source) {q : Query} {keyspace : String} {results : List α}
    (h : ((select q keyspace).run.run e).1 = .ok results) :
    ∃ o sorted kept, ((order q.keys).run.run e).1 = .ok o ∧
      (Query.sortVia .plain o (RecordSource.items source keyspace)).run = .ok sorted ∧
        Query.keep q.filter sorted = .ok kept ∧ q.window kept = results := by
  rw [select_eq_bind he hsource] at h
  cases ho : ((order q.keys).run.run e).1 with
  | error error =>
    rw [ho] at h
    cases h
  | ok o =>
    rw [ho] at h
    simp only [Except.bind] at h
    generalize hsort :
      (Query.sortVia .plain o (RecordSource.items source keyspace)).run = sorting at h
    obtain error | sorted := sorting
    · cases h
    · simp only at h
      generalize hkeep : Query.keep q.filter sorted = keeping at h
      obtain error | kept := keeping
      · cases h
      · cases h
        exact ⟨o, sorted, kept, rfl, hsort, hkeep, rfl⟩

theorem count_eq_keep {e : Engine σ} (he : e.Sound c) {source : σ}
    (hsource : e.source = some source) (f : Option Filter) (keyspace : String) :
    ((count f keyspace).run.run e).1 =
      (Query.keep f (RecordSource.items source keyspace)).map List.length := by
  rw [count_run hsource, ← Query.countVia_eq_map_length]
  exact (Query.countVia_yields f (he.source source hsource keyspace) e.paths.memory he.memory).1

/-- A count is the length of the selection without bounds, and fails as the filter does. -/
theorem select_agrees_with_count [Regex.Library] (c : Catalog) (initial : Option σ)
    (history : List (Event σ))
    (hinitial : ∀ source ∈ initial, SourceConforms c source)
    (hhistory : ∀ event ∈ history, event.Conforms c) (source : σ)
    (hsource : firstSource initial history = some source) (keyspace : String) (items : List α)
    (hitems : Scan.Lists (RecordSource.scan? source keyspace) items) (f : Option Filter)
    (keys : List SortKey) :
    let e := after initial history
    let whole : Query := { filter := f, keys }
    let selected (q : Query) := ((select q keyspace).run.run e).1
    let counted := ((count f keyspace).run.run e).1
    (∀ results, selected whole = .ok results →
      counted = .ok results.length ∧
      ∀ offset rows : Int64,
        ∃ page, selected { whole with offset, rows } = .ok page ∧
          let rest := max ((results.length : Int) - max offset.toInt 0) 0
          (page.length : Int) = if 0 ≤ rows then min rest rows.toInt else rest) ∧
    (∀ error, counted = .error error ↔ Query.FailsFirst f items error) ∧
    (keys = [] → ∀ error, selected whole = .error error ↔ counted = .error error) ∧
    ∀ o sorted, ((order keys).run.run e).1 = .ok o →
      (Query.sortVia .plain o items).run = .ok sorted →
      (∀ error, selected whole = .error error ↔ Query.FailsFirst f sorted error) ∧
        ((∃ error, selected whole = .error error) ↔ ∃ error, counted = .error error) := by
  intro e whole selected counted
  have hsound : e.Sound c := after_sound hinitial hhistory
  have hattached : e.source = some source := (after_source initial history).trans hsource
  cases hitems.items
  have hcounted : counted = (Query.keep f (RecordSource.items source keyspace)).map List.length :=
    count_eq_keep hsound hattached f keyspace
  have hfailed (error : QueryError) : counted = .error error ↔
      Query.FailsFirst f (RecordSource.items source keyspace) error := by
    rw [hcounted, map_eq_error_iff, Query.keep_eq_error_iff]
  refine ⟨fun results h => ?_, hfailed, fun hkeys error => ?_, fun o sorted ho hsort => ?_⟩
  · obtain ⟨o, sorted, kept, ho, hsort, hkeep, rfl⟩ := exists_sorted_of_select hsound hattached h
    obtain ⟨kept', hkeep', hlength⟩ := Query.exists_keep_of_perm (Query.perm_of_sortVia hsort) hkeep
    rw [Query.window_whole]
    refine ⟨?_, fun offset rows => ?_⟩
    · rw [hcounted, hkeep', ← hlength]
      rfl
    · let page : Query := { whole with offset, rows }
      refine ⟨page.window kept, ?_, Query.length_window page kept⟩
      exact (select_of_sorted hsound hattached page keyspace ho hsort).trans (by rw [hkeep]; rfl)
  · subst hkeys
    have hwhole : selected whole = (Query.keep f _).map whole.window :=
      select_of_sorted hsound hattached whole keyspace (o := .trivial) rfl rfl
    rw [hwhole, hcounted, map_eq_error_iff, map_eq_error_iff]
  · have hwhole : selected whole = (Query.keep f sorted).map whole.window :=
      select_of_sorted hsound hattached whole keyspace ho hsort
    refine ⟨fun error => ?_, ?_⟩
    · rw [hwhole, map_eq_error_iff, Query.keep_eq_error_iff]
    · simp only [hwhole, hcounted, map_eq_error_iff]
      exact Query.exists_keep_error_iff_of_perm (Query.perm_of_sortVia hsort)

/-- The filter fails on two of three records. The count meets the one first, the sorted selection
the other. Without the filter, all three are counted, and all but the first are selected. -/
theorem select_agrees_with_count_failing :
    let c : Catalog := fun _ => ["a", "v"]
    let record (a : Bool) (v : Value) : Record := ⟨⟨0, "T", ["a", "v"]⟩, [.bool a, v]⟩
    let items := [record true (.bool true), record false (.number (.signed 1)),
      record false (.string "z")]
    let store : MemoryStore Record := MemoryStore.empty.putAll "k" items
    let x : Argument := .string "x"
    let f : Filter := .leaf ⟨(⟨"v", by decide⟩ : PropertyPath), .greaterThan, false, [x],
      .ordered .greaterThan x⟩
    let q : Query := { keys := [⟨"a", .ascending, .first⟩] }
    let e := after (some store) []
    (∀ source ∈ some store, SourceConforms c source) ∧
      ((count f "k").run.run e).1 = .error (.incomparable .bool .string) ∧
      ((select { q with filter := some f } "k").run.run e).1 =
        .error (.incomparable .number .string) ∧
      ((count none "k").run.run e).1 = .ok 3 ∧
      ∃ page, ((select { q with offset := 1, rows := 5 } "k").run.run e).1 = .ok page ∧
        page.length = 2 := by
  intro c record items store x f q e
  have hstore : ∀ source ∈ some store, SourceConforms c source := by
    intro source hsource
    cases hsource
    refine (empty_conforms c).putAll "k" ?_
    simp [items, record, c, Record.Conforms, Record.toValue, Value.Conforms, allConform]
  have hlists : Scan.Lists (RecordSource.scan? store "k") items := by
    refine .inr (.inr (.inl ?_))
    simp [RecordSource.scan?, store, MemoryStore.get?_putAll]
  have hagree (f : Option Filter) := select_agrees_with_count c (some store) [] hstore (by simp)
    store rfl "k" items hlists f q.keys
  let o : RecordOrder := ⟨[⟨⟨1, ⟨"a", by decide⟩⟩, .ascending, .first⟩]⟩
  let sorted := [record false (.number (.signed 1)), record false (.string "z"),
    record true (.bool true)]
  have ho : ((order q.keys).run.run e).1 = .ok o := by cbv
  have hsort : (Query.sortVia .plain o items).run = .ok sorted := by cbv
  have hwhole : ((select q "k").run.run e).1 = .ok sorted := by cbv
  obtain ⟨hcount, hpages⟩ := (hagree none).1 sorted hwhole
  refine ⟨hstore, ?_, ?_, ?_, ?_⟩
  · refine ((hagree f).2.1 _).mpr ⟨[], _, _, rfl, by simp, ?_⟩
    cbv
  · refine (((hagree f).2.2.2 o sorted ho hsort).1 _).mpr ⟨[], _, _, rfl, by simp, ?_⟩
    cbv
  · exact hcount
  · obtain ⟨page, hpage, hlength⟩ := hpages 1 5
    refine ⟨page, hpage, ?_⟩
    exact Int.ofNat_inj.mp (hlength.trans (by decide))

end Engine

end RecordQuery
