import RecordQuery.Engine
import RecordQuery.Proofs.Query.Memory
import RecordQuery.Proofs.Store.Memory
import RecordQuery.Regex.Standard

/-!
# Histories of engines

An engine changes with every call: it takes its source, registers paths, and its path objects
remember slots. None of this shows in what later calls give. Queries and counts run on the source
that came first, and give what they would give by themselves.
-/

namespace RecordQuery

variable {σ α : Type} {c : Catalog}

/-- The records of an optional scan, in whichever form it has them. -/
def Scan.Lists (scan? : Option (Scan α)) (items : List α) : Prop :=
  scan? = none ∧ items = [] ∨ scan? = some (.slice items) ∨ scan? = some (.owned items) ∨
    ∃ stream : Thunk (List α), scan? = some (.stream stream) ∧ stream.get = items

theorem Scan.Lists.items {source : σ} {keyspace : String} [RecordSource σ α] {items : List α}
    (h : Lists (RecordSource.scan? source keyspace) items) :
    RecordSource.items source keyspace = items := by
  unfold RecordSource.items
  rcases h with ⟨h, rfl⟩ | h | h | ⟨stream, h, rfl⟩ <;> rw [h] <;> rfl

namespace Engine

/-! ## Calls -/

theorem attach_run (source : σ) (e : Engine σ) :
    (attach source).run.run e = match e.source with
      | some _ => (.error .alreadyAttached, e)
      | none => (.ok (), { e with source := some source }) := by
  obtain ⟨_ | s, paths⟩ := e <;> rfl

theorem withPaths_run {β : Type} (x : PathM β) (e : Engine σ) :
    (withPaths x).run.run e =
      ((x.run.run e.paths).1, { e with paths := (x.run.run e.paths).2 }) := rfl

theorem withPaths_bind {β γ : Type} (x : PathM β) (f : β → PathM γ) (e : Engine σ) :
    (withPaths x >>= fun b => withPaths (f b)).run.run e = (withPaths (x >>= f)).run.run e := by
  rw [withPaths_run, ExceptT.run_bind, ExceptT.run_bind, StateT.run_bind, StateT.run_bind,
    withPaths_run]
  obtain ⟨_ | b, g⟩ := x.run.run e.paths <;> rfl

theorem attached_bind_none {β : Type} {e : Engine σ} (h : e.source = none)
    (f : σ → EngineM σ β) : (attached >>= f).run.run e = (.error .notAttached, e) := by
  obtain ⟨_ | s, paths⟩ := e
  · rfl
  · cases h

theorem attached_bind_some {β : Type} {e : Engine σ} {source : σ} (h : e.source = some source)
    (f : σ → EngineM σ β) : (attached >>= f).run.run e = (f source).run.run e := by
  obtain ⟨_ | s, paths⟩ := e
  · cases h
  · cases h
    rfl

section

variable [RecordSource σ α] [HasRecord α]

theorem select_run_detached {e : Engine σ} (h : e.source = none) (q : Query) (keyspace : String) :
    (select q keyspace).run.run e = (.error .notAttached, e) :=
  attached_bind_none h _

theorem select_run {e : Engine σ} {source : σ} (h : e.source = some source) (q : Query)
    (keyspace : String) :
    (select q keyspace).run.run e = (withPaths (RecordOrder.ofKeys q.keys >>= fun o =>
      PathRegistry.withMemory (q.selectVia .shared o (RecordSource.items source keyspace)))).run.run
        e := by
  rw [← withPaths_bind]
  exact attached_bind_some h _

theorem count_run_detached {e : Engine σ} (h : e.source = none) (f : Option Filter)
    (keyspace : String) : (count f keyspace).run.run e = (.error .notAttached, e) :=
  attached_bind_none h _

theorem count_run {e : Engine σ} {source : σ} (h : e.source = some source) (f : Option Filter)
    (keyspace : String) :
    (count f keyspace).run.run e = (withMemory (Query.countVia .shared f
      (RecordSource.items source keyspace))).run.run e :=
  attached_bind_some h _

end

/-! ## Steps -/

/-- What can happen to an engine, to its source and to path objects. -/
inductive Event (σ : Type) where
  | attach (source : σ)
  | path (dotted : String)
  | filter (clauses : List Clause) (args : List Argument)
  | order (keys : List SortKey)
  | accepts (f : Option Filter) (r : Record)
  | select (q : Query) (keyspace : String)
  | count (f : Option Filter) (keyspace : String)
  /-- A path object, of this engine or not, is resolved outside of a call. -/
  | resolve (p : SharedPath) (r : Record)
  /-- The source that is attached changes its records. -/
  | update (f : σ → σ)

section

variable [RecordSource σ α] [HasRecord α]

def Event.run [Regex.Library] (e : Engine σ) : Event σ → Engine σ
  | attach source => ((Engine.attach source).run.run e).2
  | path dotted => ((Engine.path dotted).run.run e).2
  | filter clauses args => ((Engine.filter clauses args).run.run e).2
  | order keys => ((Engine.order keys).run.run e).2
  | accepts f r => ((Engine.accepts f r).run.run e).2
  | select q keyspace => ((Engine.select q keyspace).run.run e).2
  | count f keyspace => ((Engine.count f keyspace).run.run e).2
  | resolve p r => ((withMemory (p.resolve r)).run.run e).2
  | update f => { e with source := e.source.map f }

/-- The source after an event. The first one stays. -/
def Event.sourceAfter (source? : Option σ) : Event σ → Option σ
  | attach source => source? <|> some source
  | update f => source?.map f
  | _ => source?

theorem Event.run_source [Regex.Library] (event : Event σ) (e : Engine σ) :
    (event.run e).source = event.sourceAfter e.source := by
  cases event with
  | attach source =>
    obtain ⟨_ | s, paths⟩ := e <;> rfl
  | select q keyspace =>
    show ((Engine.select q keyspace).run.run e).2.source = e.source
    cases h : e.source with
    | none => rw [select_run_detached h, h]
    | some source => rw [select_run h, withPaths_run, h]
  | count f keyspace =>
    show ((Engine.count f keyspace).run.run e).2.source = e.source
    cases h : e.source with
    | none => rw [count_run_detached h, h]
    | some source => rw [count_run h, withMemory, withPaths_run, h]
  | _ => rfl

/-- Every record that a source holds conforms to the catalog, as records of one type have one
attribute list. -/
def SourceConforms (c : Catalog) (source : σ) : Prop :=
  ∀ keyspace, ∀ x ∈ RecordSource.items source keyspace, (toRecord x).Conforms c

/-- The records that come with an event conform to the catalog. -/
def Event.Conforms (c : Catalog) : Event σ → Prop
  | attach source => SourceConforms c source
  | accepts _ r => r.Conforms c
  | resolve _ r => r.Conforms c
  | update f => ∀ source, SourceConforms c source → SourceConforms c (f source)
  | _ => True

/-- The source conforms, and the path objects remember first positions only. -/
structure Sound (c : Catalog) (e : Engine σ) : Prop where
  source : ∀ source ∈ e.source, SourceConforms c source
  memory : e.paths.memory.Sound c

theorem Event.sourceAfter_conforms {event : Event σ} (h : event.Conforms c) {source? : Option σ}
    (hsource : ∀ source ∈ source?, SourceConforms c source) :
    ∀ source ∈ event.sourceAfter source?, SourceConforms c source := by
  cases event with
  | attach source =>
    cases source? with
    | none =>
      intro s hs
      cases hs
      exact h
    | some first => exact hsource
  | update f =>
    intro s hs
    obtain ⟨first, hfirst, rfl⟩ := Option.map_eq_some_iff.mp hs
    exact h first (hsource first hfirst)
  | _ => exact hsource

theorem withMemory_sound {β : Type} {x : SlotM β} {result : Except QueryError β}
    (hx : Yields c x.run result) {e : Engine σ} (he : e.paths.memory.Sound c) :
    ((withMemory x).run.run e).2.paths.memory.Sound c :=
  (hx e.paths.memory he).2

theorem select_sound {e : Engine σ} (he : e.Sound c) (q : Query) (keyspace : String) :
    ((select q keyspace).run.run e).2.paths.memory.Sound c := by
  cases h : e.source with
  | none => rw [select_run_detached h]; exact he.memory
  | some source =>
    rw [select_run h, withPaths_run]
    refine ((RecordOrder.ofKeys_keepsSound c q.keys).bind fun o g hg => ?_) e.paths he.memory
    exact (q.selectVia_yields rfl (he.source source h keyspace) g.memory hg).2

theorem count_sound {e : Engine σ} (he : e.Sound c) (f : Option Filter) (keyspace : String) :
    ((count f keyspace).run.run e).2.paths.memory.Sound c := by
  cases h : e.source with
  | none => rw [count_run_detached h]; exact he.memory
  | some source =>
    rw [count_run h]
    exact withMemory_sound (Query.countVia_yields f (he.source source h keyspace)) he.memory

theorem Event.run_sound [Regex.Library] {event : Event σ} (h : event.Conforms c) {e : Engine σ}
    (he : e.Sound c) : (event.run e).Sound c := by
  refine ⟨event.run_source e ▸ sourceAfter_conforms h he.source, ?_⟩
  cases event with
  | attach source =>
    show ((Engine.attach source).run.run e).2.paths.memory.Sound c
    obtain ⟨_ | s, paths⟩ := e <;> exact he.memory
  | path dotted => exact PathRegistry.intern_keepsSound dotted e.paths he.memory
  | filter clauses args =>
    exact Filter.assembleFrom_keepsSound c none none clauses args e.paths he.memory
  | order keys => exact RecordOrder.ofKeys_keepsSound c keys e.paths he.memory
  | accepts f r => exact withMemory_sound (Filter.acceptsVia_yields f h) he.memory
  | select q keyspace => exact select_sound he q keyspace
  | count f keyspace => exact count_sound he f keyspace
  | resolve p r => exact withMemory_sound (read_yields p h) he.memory
  | update f => exact he.memory

/-! ## Runs -/

/-- An engine as it is made, with a source or without. -/
def start : Option σ → Engine σ
  | none => detached
  | some source => ofSource source

def after [Regex.Library] (initial : Option σ) (history : List (Event σ)) : Engine σ :=
  history.foldl Event.run (start initial)

/-- The source that came first, as it stands after a history. -/
def firstSource (initial : Option σ) (history : List (Event σ)) : Option σ :=
  history.foldl Event.sourceAfter initial

theorem start_source (initial : Option σ) : (start initial).source = initial := by
  cases initial <;> rfl

theorem start_memory (initial : Option σ) : (start initial).paths.memory = .empty := by
  cases initial <;> rfl

theorem after_source [Regex.Library] (initial : Option σ) (history : List (Event σ)) :
    (after initial history).source = firstSource initial history := by
  have hstart := start_source initial
  unfold after firstSource
  generalize start initial = e at hstart ⊢
  subst hstart
  induction history generalizing e with
  | nil => rfl
  | cons event rest ih => rw [List.foldl_cons, List.foldl_cons, ← event.run_source, ih]

theorem after_sound [Regex.Library] {initial : Option σ}
    (hinitial : ∀ source ∈ initial, SourceConforms c source) {history : List (Event σ)}
    (hhistory : ∀ event ∈ history, event.Conforms c) :
    (after initial history).Sound c := by
  have hstart : (start initial).Sound c := by
    refine ⟨?_, ?_⟩
    · rwa [start_source]
    · rw [start_memory]
      exact SlotMemory.empty_sound c
  unfold after
  generalize start initial = e at hstart ⊢
  induction history generalizing e with
  | nil => exact hstart
  | cons event rest ih =>
    obtain ⟨hevent, hrest⟩ := List.forall_mem_cons.mp hhistory
    exact ih hrest _ (event.run_sound hevent hstart)

theorem isSome_firstSource (initial : Option σ) (history : List (Event σ)) :
    (firstSource initial history).isSome ↔
      initial.isSome ∨ ∃ source, .attach source ∈ history := by
  unfold firstSource
  induction history generalizing initial with
  | nil => simp
  | cons event rest ih =>
    rw [List.foldl_cons, ih]
    cases event with
    | attach source => cases initial <;> simp [Event.sourceAfter]
    | _ => simp [Event.sourceAfter]

/-- What calls give does not depend on the history of the engine. -/
theorem results_of_history [Regex.Library] (c : Catalog) (initial : Option σ)
    (history : List (Event σ)) (hinitial : ∀ source ∈ initial, SourceConforms c source)
    (hhistory : ∀ event ∈ history, event.Conforms c) :
    let e := after initial history
    ((firstSource initial history).isSome ↔
      initial.isSome ∨ ∃ source, .attach source ∈ history) ∧
    (∀ clauses args, ((filter clauses args).run.run e).1.map (Option.map Filter.plain) =
      ((filter clauses args).run.run (detached : Engine σ)).1.map (Option.map Filter.plain)) ∧
    (∀ keys, ((order keys).run.run e).1.map RecordOrder.parts =
      ((order keys).run.run (detached : Engine σ)).1.map RecordOrder.parts) ∧
    match firstSource initial history with
    | none => ∀ (q : Query) (f : Option Filter) (keyspace : String),
      ((select q keyspace).run.run e).1 = .error .notAttached ∧
        ((count f keyspace).run.run e).1 = .error .notAttached
    | some source =>
      (∀ other, (attach other).run.run e = (.error .alreadyAttached, e)) ∧
      ∀ (q : Query) (keyspace : String) (items : List α),
        Scan.Lists (RecordSource.scan? source keyspace) items →
        ((select q keyspace).run.run e).1 = q.select items ∧
          ((select q keyspace).run.run e).1 = ((q.selectShared items).run.run e.paths.memory).1 ∧
          ((count q.filter keyspace).run.run e).1 = q.count items ∧
          ((count q.filter keyspace).run.run e).1 =
            ((Query.countVia .shared q.filter items).run.run e.paths.memory).1 := by
  intro e
  have hsound : e.Sound c := after_sound hinitial hhistory
  have hsource : e.source = firstSource initial history := after_source initial history
  refine ⟨isSome_firstSource initial history, fun clauses args => ?_, fun keys => ?_, ?_⟩
  · exact Filter.assembleFrom_agree rfl rfl clauses args e.paths _
  · exact RecordOrder.ofKeys_agree keys e.paths _
  rw [← hsource]
  cases h : e.source with
  | none =>
    intro q f keyspace
    rw [select_run_detached h, count_run_detached h]
    exact ⟨rfl, rfl⟩
  | some source =>
    refine ⟨fun other => by rw [attach_run, h], fun q keyspace items hitems => ?_⟩
    have hconform : ∀ x ∈ items, (toRecord x).Conforms c :=
      hitems.items ▸ hsound.source source h keyspace
    have hselect : ((select q keyspace).run.run e).1 = q.select items := by
      rw [select_run h, withPaths_run, hitems.items]
      exact q.selectVia_ofKeys hsound.memory hconform
    have hcount : ((count q.filter keyspace).run.run e).1 =
        ((Query.countVia .shared q.filter items).run.run e.paths.memory).1 := by
      rw [count_run h, hitems.items]
      rfl
    refine ⟨hselect, ?_, ?_, hcount⟩
    · rw [hselect, q.selectShared_eq hsound.memory hconform]
    · rw [hcount]
      exact (Query.countVia_yields q.filter hconform e.paths.memory hsound.memory).1

end

theorem empty_conforms (c : Catalog) :
    SourceConforms c (MemoryStore.empty : MemoryStore Record) := by
  intro keyspace x hx
  simp [MemoryStore.items_eq] at hx

theorem SourceConforms.putAll {s : MemoryStore Record} (h : SourceConforms c s) (keyspace : String)
    {items : List Record} (hitems : ∀ x ∈ items, x.Conforms c) :
    SourceConforms c (s.putAll keyspace items) := by
  intro other x hx
  rw [MemoryStore.items_eq, MemoryStore.get?_putAll] at hx
  by_cases hsame : keyspace = other
  · rw [if_pos hsame, Option.getD_some, ← MemoryStore.items_eq] at hx
    rcases List.mem_append.mp hx with hx | hx
    · exact h keyspace x hx
    · exact hitems x hx
  · rw [if_neg hsame, ← MemoryStore.items_eq] at hx
    exact h other x hx

/-- A query fails without a source, a source is attached and another one refused, and a key fails:
the query then runs on the source. -/
theorem results_of_history_two_sources :
    let c : Catalog := fun _ => ["a"]
    let record (b : Bool) : Record := ⟨⟨0, "T", ["a"]⟩, [.bool b]⟩
    let store : MemoryStore Record := MemoryStore.empty.putAll "k" [record true, record false]
    let q : Query := { keys := [⟨"a", .ascending, .first⟩] }
    let history : List (Event (MemoryStore Record)) :=
      [.select q "k", .attach store, .attach .empty, .order [⟨"a.", .ascending, .first⟩],
        .select q "k"]
    (∀ event ∈ history, event.Conforms c) ∧
      ((select q "k").run.run (after none history)).1.map (List.map Record.values) =
        .ok [[.bool false], [.bool true]] := by
  intro c record store q history
  have hstore : SourceConforms c store := by
    refine (empty_conforms c).putAll "k" ?_
    simp [record, c, Record.Conforms, Record.toValue, Value.Conforms, allConform]
  have hhistory : ∀ event ∈ history, event.Conforms c := by
    simp [history, Event.Conforms, hstore, empty_conforms]
  have hlists : Scan.Lists (RecordSource.scan? store "k") [record true, record false] := by
    refine .inr (.inr (.inl ?_))
    simp [RecordSource.scan?, store, MemoryStore.get?_putAll]
  obtain ⟨-, -, -, -, hresults⟩ := results_of_history c none history (by simp) hhistory
  refine ⟨hhistory, ?_⟩
  rw [(hresults q "k" _ hlists).1]
  cbv

end Engine

end RecordQuery
