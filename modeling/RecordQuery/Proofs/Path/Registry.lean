import RecordQuery.Filter.Clause
import RecordQuery.Order.Basic
import RecordQuery.Proofs.Path.Memory

/-!
# Computations on a registry

The path that a registry hands out is the one that its text reads as, whatever the registry holds,
so an order made through a registry says what its keys say. Making paths, filters and orders leaves
a sound memory sound.
-/

namespace RecordQuery

theorem PropertyPath.parse_dotted (p : PropertyPath) : parse p.dotted = .ok p := by
  unfold parse
  rw [dif_pos p.segments_visible]

/-- Whatever comes out of the computation, it leaves a sound memory sound. -/
def KeepsSound (c : Catalog) {α : Type} (x : PathM α) : Prop :=
  ∀ g, g.memory.Sound c → (x.run.run g).2.memory.Sound c

namespace KeepsSound

variable {c : Catalog} {α β : Type}

theorem pure (a : α) : KeepsSound c (Pure.pure a) := fun _ hg => hg

theorem bind {x : PathM α} {f : α → PathM β} (hx : KeepsSound c x) (hf : ∀ a, KeepsSound c (f a)) :
    KeepsSound c (x >>= f) := by
  intro g hg
  have hafter := hx g hg
  rw [ExceptT.run_bind, StateT.run_bind]
  generalize x.run.run g = ran at hafter ⊢
  obtain ⟨_ | a, g'⟩ := ran
  · exact hafter
  · exact hf a g' hafter

theorem lift (result : Except QueryError α) : KeepsSound c (liftM result : PathM α) := by
  intro g hg
  cases result <;> exact hg

end KeepsSound

/-- Two computations give the same up to `f`, each from its own registry. -/
def Agree {α γ : Type} (f : α → γ) (x y : PathM α) : Prop :=
  ∀ g g', (x.run.run g).1.map f = (y.run.run g').1.map f

namespace Agree

variable {α β γ δ : Type} {f : α → γ}

theorem pure {a b : α} (h : f a = f b) : Agree f (Pure.pure a) (Pure.pure b) :=
  fun _ _ => congrArg Except.ok h

theorem lift {a b : Except QueryError α} (h : a.map f = b.map f) :
    Agree f (liftM a : PathM α) (liftM b) := by
  intro g g'
  cases a <;> cases b <;> exact h

theorem bind {x y : PathM α} (h : Agree f x y) {k : β → δ} {u v : α → PathM β}
    (hnext : ∀ a b, f a = f b → Agree k (u a) (v b)) : Agree k (x >>= u) (y >>= v) := by
  intro g g'
  have hresult := h g g'
  rw [ExceptT.run_bind, ExceptT.run_bind, StateT.run_bind, StateT.run_bind]
  generalize x.run.run g = ran at hresult ⊢
  generalize y.run.run g' = ran' at hresult ⊢
  obtain ⟨_ | a, g⟩ := ran <;> obtain ⟨_ | b, g'⟩ := ran'
  · cases hresult
    rfl
  · cases hresult
  · cases hresult
  · exact hnext a b (Except.ok.inj hresult) g g'

end Agree

namespace PathRegistry

variable {c : Catalog}

theorem intern_run (dotted : String) (g : PathRegistry) :
    (intern dotted).run.run g = match g.find? dotted with
      | some p => (.ok p, g)
      | none => match PropertyPath.parse dotted with
        | .error e => (.error e, g)
        | .ok path => (.ok (g.memory.create path).1,
            ⟨g.paths ++ [(g.memory.create path).1], (g.memory.create path).2⟩) := by
  unfold intern
  rw [ExceptT.run_bind, StateT.run_bind]
  change StateT.run (ExceptT.run _) g = _
  dsimp only
  cases g.find? dotted with
  | some p => rfl
  | none =>
    dsimp only
    cases PropertyPath.parse dotted <;> rfl

theorem dotted_of_find? {g : PathRegistry} {dotted : String} {p : SharedPath}
    (h : g.find? dotted = some p) : p.path.dotted = dotted := by
  simpa [SharedPath.dotted] using List.find?_some h

theorem intern_path (dotted : String) (g : PathRegistry) :
    ((intern dotted).run.run g).1.map SharedPath.path = PropertyPath.parse dotted := by
  rw [intern_run]
  cases hfind : g.find? dotted with
  | some p =>
    rw [← dotted_of_find? hfind, PropertyPath.parse_dotted]
    rfl
  | none => cases PropertyPath.parse dotted <;> rfl

theorem intern_agree (dotted : String) : Agree SharedPath.path (intern dotted) (intern dotted) :=
  fun g g' => (intern_path dotted g).trans (intern_path dotted g').symm

theorem intern_keepsSound (dotted : String) : KeepsSound c (intern dotted) := by
  intro g hg
  rw [intern_run]
  cases g.find? dotted with
  | some p => exact hg
  | none =>
    cases PropertyPath.parse dotted with
    | error e => exact hg
    | ok path => exact hg.create path

end PathRegistry

/-! ## Filters -/

theorem Filter.assembleFrom_keepsSound [Regex.Library] (c : Catalog)
    (branches group : Option Filter) (clauses : List Clause) (args : List Argument) :
    KeepsSound c (assembleFrom branches group clauses args) := by
  induction clauses generalizing branches group args with
  | nil => exact .pure _
  | cons clause rest ih =>
    refine (PathRegistry.intern_keepsSound clause.property).bind fun shared => ?_
    refine (KeepsSound.lift _).bind fun condition => ?_
    dsimp only
    split
    · exact ih _ _ _
    · exact ih _ _ _
    · exact ih _ _ _

/-- The filter with its paths outside of registries. -/
def Filter.plain : Filter → Filter
  | leaf l => leaf { l with path := l.path.path }
  | and a b => and a.plain b.plain
  | or a b => or a.plain b.plain

theorem Filter.build_plain [Regex.Library] (p : SharedPath) (op : Operator) (ignoreCase : Bool)
    (args : List Argument) :
    (build p op ignoreCase args).map plain = build p.path op ignoreCase args := by
  have hoperator (args : List Argument) :
      (ofOperator p op ignoreCase args).map plain = ofOperator p.path op ignoreCase args := by
    unfold ofOperator
    dsimp only
    split <;> try rfl
    cases Test.ofMatch ignoreCase _ <;> rfl
  unfold build
  split
  · rfl
  split
  · rfl
  exact hoperator _

theorem Filter.joinOr_plain {branches branches' : Option Filter}
    (hbranches : branches.map plain = branches'.map plain) {next next' : Filter}
    (hnext : next.plain = next'.plain) :
    (joinOr branches next).plain = (joinOr branches' next').plain := by
  cases branches <;> cases branches'
  · exact hnext
  · cases hbranches
  · cases hbranches
  · exact congrArg₂ or (Option.some.inj hbranches) hnext

theorem Filter.assembleFrom_agree [Regex.Library] {branches branches' group group' : Option Filter}
    (hbranches : branches.map plain = branches'.map plain)
    (hgroup : group.map plain = group'.map plain) (clauses : List Clause) (args : List Argument) :
    Agree (Option.map plain) (assembleFrom branches group clauses args)
      (assembleFrom branches' group' clauses args) := by
  induction clauses generalizing branches branches' group group' args with
  | nil =>
    cases group <;> cases group'
    · exact .pure hbranches
    · cases hgroup
    · cases hgroup
    · exact .pure (congrArg some (joinOr_plain hbranches (Option.some.inj hgroup)))
  | cons clause rest ih =>
    refine (PathRegistry.intern_agree clause.property).bind fun p p' hp => ?_
    have hbuild : (build p clause.operator clause.ignoreCase args).map plain =
        (build p' clause.operator clause.ignoreCase args).map plain := by
      rw [build_plain, build_plain, hp]
    refine (Agree.lift hbuild).bind fun condition condition' hcondition => ?_
    have hsome : (some condition).map plain = (some condition').map plain :=
      congrArg some hcondition
    cases group <;> cases group'
    · exact ih hbranches hsome _
    · cases hgroup
    · cases hgroup
    · rename_i f f'
      have hf : f.plain = f'.plain := Option.some.inj hgroup
      cases clause.connector with
      | and =>
        have hand : (some (and f condition)).map plain = (some (and f' condition')).map plain :=
          congrArg some (congrArg₂ and hf hcondition)
        exact ih hbranches hand _
      | or =>
        have hor : (some (joinOr branches f)).map plain = (some (joinOr branches' f')).map plain :=
          congrArg some (joinOr_plain hbranches hf)
        exact ih hor hsome _

/-! ## Orders -/

/-- What a key says, whichever object its path is. -/
def PathKey.parts (k : PathKey) : PropertyPath × Direction × NullPlacement :=
  (k.path.path, k.direction, k.nulls)

/-- What an order says, whichever objects its paths are. -/
def RecordOrder.parts (o : RecordOrder) : List (PropertyPath × Direction × NullPlacement) :=
  o.keys.map PathKey.parts

theorem PathKey.ofSortKey_agree (k : SortKey) : Agree parts (ofSortKey k) (ofSortKey k) := by
  refine (PathRegistry.intern_agree k.property).bind fun p p' hp => .pure ?_
  exact congrArg (·, k.direction, k.nulls) hp

theorem PathKey.ofSortKey_keepsSound (c : Catalog) (k : SortKey) : KeepsSound c (ofSortKey k) :=
  (PathRegistry.intern_keepsSound k.property).bind fun _ => .pure _

theorem PathKey.ofSortKeys_agree (keys : List SortKey) :
    Agree (List.map parts) (keys.mapM ofSortKey) (keys.mapM ofSortKey) := by
  induction keys with
  | nil => exact .pure rfl
  | cons k rest ih =>
    rw [List.mapM_cons]
    refine (ofSortKey_agree k).bind fun key key' hkey => ih.bind fun keys keys' hkeys => .pure ?_
    exact congrArg₂ List.cons hkey hkeys

theorem PathKey.ofSortKeys_keepsSound (c : Catalog) (keys : List SortKey) :
    KeepsSound c (keys.mapM ofSortKey) := by
  induction keys with
  | nil => exact .pure _
  | cons k rest ih =>
    rw [List.mapM_cons]
    exact (ofSortKey_keepsSound c k).bind fun _ => ih.bind fun _ => .pure _

theorem RecordOrder.ofKeys_agree (keys : List SortKey) :
    Agree parts (ofKeys keys) (ofKeys keys) :=
  (PathKey.ofSortKeys_agree keys).bind fun _ _ hkeys => .pure hkeys

theorem RecordOrder.ofKeys_keepsSound (c : Catalog) (keys : List SortKey) :
    KeepsSound c (ofKeys keys) :=
  (PathKey.ofSortKeys_keepsSound c keys).bind fun _ => .pure _

end RecordQuery
