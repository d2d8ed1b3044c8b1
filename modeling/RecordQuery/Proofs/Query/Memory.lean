import RecordQuery.Proofs.Order.Stable
import RecordQuery.Proofs.Path.Registry
import RecordQuery.Query.Run

/-!
# Queries on remembered slots

`Yields c x a` says that `x` gives `a` from every memory that is sound for the catalog `c`, and
leaves a sound one. What filters, orders and queries compute from shared paths is what they compute
from plain ones, as long as the records conform to the catalog.
-/

namespace RecordQuery

def Yields (c : Catalog) {α : Type} (x : StateM SlotMemory α) (a : α) : Prop :=
  ∀ m, m.Sound c → (x.run m).1 = a ∧ (x.run m).2.Sound c

namespace Yields

variable {c : Catalog} {α β ε : Type}

theorem pure (a : α) : Yields c (Pure.pure a) a := fun _ hm => ⟨rfl, hm⟩

theorem bind {x : StateM SlotMemory α} {a : α} {f : α → StateM SlotMemory β} {b : β}
    (hx : Yields c x a) (hf : Yields c (f a) b) : Yields c (x >>= f) b := by
  intro m hm
  obtain ⟨ha, hsound⟩ := hx m hm
  have hb := hf _ hsound
  rw [← ha] at hb
  exact hb

theorem bindExcept {x : ExceptT ε (StateM SlotMemory) α} {y : ExceptT ε Id α}
    {f : α → ExceptT ε (StateM SlotMemory) β} {g : α → ExceptT ε Id β}
    (hx : Yields c x.run y.run) (hf : ∀ a, y.run = .ok a → Yields c (f a).run (g a).run) :
    Yields c (x >>= f).run (y >>= g).run := by
  rw [ExceptT.run_bind, ExceptT.run_bind]
  refine hx.bind ?_
  match hy : y.run with
  | .ok a => exact hf a hy
  | .error e => exact .pure _

theorem bindState {σ : Type} {x : StateT σ (StateM SlotMemory) α} {y : StateT σ Id α}
    {f : α → StateT σ (StateM SlotMemory) β} {g : α → StateT σ Id β} {st : σ}
    (hx : Yields c (x.run st) (y.run st))
    (hf : Yields c ((f (y.run st).1).run (y.run st).2) ((g (y.run st).1).run (y.run st).2)) :
    Yields c ((x >>= f).run st) ((y >>= g).run st) := by
  rw [StateT.run_bind]
  exact hx.bind hf

end Yields

variable {c : Catalog}

theorem read_yields (p : SharedPath) {r : Record} (hr : r.Conforms c) :
    Yields c (PathReader.shared p r).run (PathReader.plain p r).run :=
  fun _ hm => p.resolve_spec hm hr

/-! ## Filters -/

theorem Leaf.passesVia_yields (l : Leaf) {r : Record} (hr : r.Conforms c) :
    Yields c (l.passesVia .shared r).run (l.passesVia .plain r).run :=
  (read_yields l.path hr).bindExcept fun _ _ => .pure _

theorem Filter.passesVia_yields (f : Filter) {r : Record} (hr : r.Conforms c) :
    Yields c (f.passesVia .shared r).run (f.passesVia .plain r).run := by
  induction f with
  | leaf l => exact l.passesVia_yields hr
  | and a b iha ihb =>
    refine iha.bindExcept fun passed _ => ?_
    cases passed with
    | true => exact ihb
    | false => exact .pure _
  | or a b iha ihb =>
    refine iha.bindExcept fun passed _ => ?_
    cases passed with
    | true => exact .pure _
    | false => exact ihb

theorem Filter.acceptsVia_yields (f : Option Filter) {r : Record} (hr : r.Conforms c) :
    Yields c (acceptsVia .shared f r).run (acceptsVia .plain f r).run := by
  cases f with
  | none => exact .pure _
  | some f => exact f.passesVia_yields hr

/-! ## Orders -/

theorem PathKey.compareVia_yields {k k' : PathKey} (h : k.parts = k'.parts) {a b : Record}
    (ha : a.Conforms c) (hb : b.Conforms c) :
    Yields c (k.compareVia .shared a b).run (k'.compareVia .plain a b).run := by
  obtain ⟨p, direction, nulls⟩ := k
  obtain ⟨⟨handle, path⟩, direction', nulls'⟩ := k'
  cases h
  exact (read_yields p ha).bindExcept fun _ _ => (read_yields p hb).bindExcept fun _ _ => .pure _

theorem RecordOrder.compareKeys_yields {ks ks' : List PathKey}
    (h : ks.map PathKey.parts = ks'.map PathKey.parts) {a b : Record} (ha : a.Conforms c)
    (hb : b.Conforms c) :
    Yields c (compareKeys .shared ks a b).run (compareKeys .plain ks' a b).run := by
  induction ks generalizing ks' with
  | nil =>
    cases ks' with
    | nil => exact .pure _
    | cons k' ks' => cases h
  | cons k ks ih =>
    cases ks' with
    | nil => cases h
    | cons k' ks' =>
      obtain ⟨hk, hks⟩ := List.cons.inj h
      refine (PathKey.compareVia_yields hk ha hb).bindExcept fun o _ => ?_
      cases o with
      | eq => exact ih hks
      | lt => exact .pure _
      | gt => exact .pure _

/-! ## Sorting -/

namespace StableSort

variable {ε α : Type}

theorem latched_yields {cmp : α → α → ExceptT ε (StateM SlotMemory) Ordering}
    {cmp' : α → α → ExceptT ε Id Ordering} {a b : α} (h : Yields c (cmp a b).run (cmp' a b).run)
    (st : Option ε) : Yields c ((latched cmp a b).run st) ((latched cmp' a b).run st) := by
  cases st with
  | some e =>
    rw [latched_run_some, latched_run_some]
    exact .pure _
  | none =>
    rw [latched_run_none, latched_run_none]
    refine h.bind ?_
    generalize (cmp' a b).run = result
    match result with
    | .ok o => exact .pure _
    | .error e => exact .pure _

section

variable {σ : Type} {cmp : α → α → StateT σ (StateM SlotMemory) Ordering}
  {cmp' : α → α → StateT σ Id Ordering}

theorem insert_yields {x : α} {ys : List α}
    (h : ∀ y ∈ ys, ∀ st, Yields c ((cmp x y).run st) ((cmp' x y).run st)) (st : σ) :
    Yields c ((insert cmp x ys).run st) ((insert cmp' x ys).run st) := by
  induction ys generalizing st with
  | nil => exact .pure _
  | cons y ys ih =>
    obtain ⟨hy, hys⟩ := List.forall_mem_cons.mp h
    rw [insert_cons, insert_cons]
    refine (hy st).bindState ?_
    generalize (cmp' x y).run st = compared
    obtain ⟨o, st'⟩ := compared
    cases o with
    | lt => exact (ih hys st').bindState (.pure _)
    | eq => exact .pure _
    | gt => exact .pure _

theorem insertAll_yields {P : α → Prop}
    (h : ∀ a b, P a → P b → ∀ st, Yields c ((cmp a b).run st) ((cmp' a b).run st))
    {items sorted : List α} (hitems : ∀ x ∈ items, P x) (hsorted : ∀ x ∈ sorted, P x) (st : σ) :
    Yields c ((insertAll cmp items sorted).run st) ((insertAll cmp' items sorted).run st) := by
  induction items generalizing sorted st with
  | nil => exact .pure _
  | cons x items ih =>
    obtain ⟨hx, hitems⟩ := List.forall_mem_cons.mp hitems
    rw [insertAll_cons, insertAll_cons]
    refine (insert_yields (fun y hy => h x y hx (hsorted y hy)) st).bindState ?_
    refine ih hitems (fun z hz => ?_) _
    exact List.forall_mem_cons.mpr ⟨hx, hsorted⟩ z ((insert_perm cmp' x sorted st).mem_iff.mp hz)

end

theorem sort_yields {P : α → Prop} {cmp : α → α → ExceptT ε (StateM SlotMemory) Ordering}
    {cmp' : α → α → ExceptT ε Id Ordering}
    (h : ∀ a b, P a → P b → Yields c (cmp a b).run (cmp' a b).run) {items : List α}
    (hitems : ∀ x ∈ items, P x) : Yields c (sort cmp items).run (sort cmp' items).run := by
  rw [sort_run, sort_run]
  have hall : Yields c ((insertAll (latched cmp) items []).run none)
      ((insertAll (latched cmp') items []).run none) :=
    insertAll_yields (fun a b ha hb => latched_yields (h a b ha hb)) hitems
      (fun _ hx => by cases hx) none
  refine hall.bind ?_
  generalize (insertAll (latched cmp') items []).run none = sorted
  match sorted with
  | (_, none) => exact .pure _
  | (_, some _) => exact .pure _

end StableSort

/-! ## Queries -/

namespace Query

variable {α : Type} [HasRecord α]

theorem sortVia_yields {o o' : RecordOrder} (ho : o.parts = o'.parts) {items : List α}
    (h : ∀ x ∈ items, (toRecord x).Conforms c) :
    Yields c (sortVia .shared o items).run (sortVia .plain o' items).run := by
  have htrivial : o.isTrivial = o'.isTrivial := by
    simpa [RecordOrder.isTrivial, RecordOrder.parts] using congrArg List.isEmpty ho
  unfold sortVia
  rw [htrivial]
  split
  · exact .pure _
  · exact StableSort.sort_yields (fun a b => RecordOrder.compareKeys_yields ho) h

theorem perm_of_sortVia {o : RecordOrder} {items sorted : List α}
    (h : (sortVia .plain o items).run = .ok sorted) : sorted.Perm items := by
  unfold sortVia at h
  split at h
  · cases h
    exact .refl _
  · exact StableSort.perm_of_sort h

theorem keepVia_yields (f : Option Filter) {items : List α}
    (h : ∀ x ∈ items, (toRecord x).Conforms c) :
    Yields c (keepVia .shared f items).run (keepVia .plain f items).run := by
  induction items with
  | nil => exact .pure _
  | cons x items ih =>
    obtain ⟨hx, hitems⟩ := List.forall_mem_cons.mp h
    exact (Filter.acceptsVia_yields f hx).bindExcept fun _ _ =>
      (ih hitems).bindExcept fun _ _ => .pure _

theorem countVia_yields (f : Option Filter) {items : List α}
    (h : ∀ x ∈ items, (toRecord x).Conforms c) :
    Yields c (countVia .shared f items).run (countVia .plain f items).run := by
  unfold countVia
  generalize 0 = n
  induction items generalizing n with
  | nil => exact .pure _
  | cons x items ih =>
    obtain ⟨hx, hitems⟩ := List.forall_mem_cons.mp h
    rw [List.foldlM_cons, List.foldlM_cons]
    exact ((Filter.acceptsVia_yields f hx).bindExcept fun _ _ => .pure _).bindExcept
      fun n _ => ih hitems n

theorem selectVia_yields (q : Query) {o o' : RecordOrder} (ho : o.parts = o'.parts)
    {items : List α} (h : ∀ x ∈ items, (toRecord x).Conforms c) :
    Yields c (q.selectVia .shared o items).run (q.selectVia .plain o' items).run := by
  refine (sortVia_yields ho h).bindExcept fun sorted hsorted => ?_
  have hconform : ∀ x ∈ sorted, (toRecord x).Conforms c :=
    fun x hx => h x ((perm_of_sortVia hsorted).mem_iff.mp hx)
  exact (keepVia_yields q.filter hconform).bindExcept fun _ _ => .pure _

theorem selectVia_ofKeys (q : Query) {g : PathRegistry} (hg : g.memory.Sound c) {items : List α}
    (h : ∀ x ∈ items, (toRecord x).Conforms c) :
    (((RecordOrder.ofKeys q.keys >>= fun o =>
      PathRegistry.withMemory (q.selectVia .shared o items)).run.run g).1) = q.select items := by
  have hparts := RecordOrder.ofKeys_agree q.keys g ⟨[], .empty⟩
  have hsound := RecordOrder.ofKeys_keepsSound c q.keys g hg
  unfold select
  rw [ExceptT.run_bind, StateT.run_bind]
  change _ = ((RecordOrder.ofKeys q.keys).run.run ⟨[], .empty⟩).1 >>= _
  generalize (RecordOrder.ofKeys q.keys).run.run g = ran at hparts hsound ⊢
  generalize ((RecordOrder.ofKeys q.keys).run.run ⟨[], .empty⟩).1 = plain at hparts ⊢
  obtain ⟨e | o, g'⟩ := ran
  · cases plain with
    | error e' => cases hparts; rfl
    | ok o' => cases hparts
  · cases plain with
    | error e' => cases hparts
    | ok o' => exact (q.selectVia_yields (Except.ok.inj hparts) h g'.memory hsound).1

theorem selectShared_eq (q : Query) {m : SlotMemory} (hm : m.Sound c) {items : List α}
    (h : ∀ x ∈ items, (toRecord x).Conforms c) :
    ((q.selectShared items).run.run m).1 = q.select items := by
  rw [← q.selectVia_ofKeys (g := ⟨[], m⟩) hm h]
  unfold selectShared
  rw [ExceptT.run_bind, StateT.run_bind, ExceptT.run_bind, StateT.run_bind]
  have hstandalone : (RecordOrder.standalone q.keys).run.run m =
      (((RecordOrder.ofKeys q.keys).run.run ⟨[], m⟩).1,
        ((RecordOrder.ofKeys q.keys).run.run ⟨[], m⟩).2.memory) := rfl
  rw [hstandalone]
  obtain ⟨e | o, g⟩ := (RecordOrder.ofKeys q.keys).run.run ⟨[], m⟩ <;> rfl

end Query

end RecordQuery
