import RecordQuery.Proofs.Order.Sortable

/-!
# Comparing the other way around

What a comparison gives turns around when its two records change places: an order is reversed, two
kinds that are not ordered are named the other way around, and where a property cannot be read the
comparison fails either way. Each key turns around by itself, and the first key that does not find
the records equal is the same from both sides. So a record is equal to itself where it can be
compared to itself at all.
-/

namespace RecordQuery

/-- A comparison, and the one with its sides exchanged. What cannot be read need not be the same
from both sides, as the left side is read first. -/
inductive Reversed (Unread : QueryError → Prop) :
    Except QueryError Ordering → Except QueryError Ordering → Prop where
  | ordered (o : Ordering) : Reversed Unread (.ok o) (.ok o.swap)
  | incomparable (left right : Kind) :
    Reversed Unread (.error (.incomparable left right)) (.error (.incomparable right left))
  | unread {e e' : QueryError} (h : Unread e) (h' : Unread e') :
    Reversed Unread (.error e) (.error e')

namespace Reversed

variable {Unread : QueryError → Prop} {x y : Except QueryError Ordering}

theorem mono {Unread' : QueryError → Prop} (h : Reversed Unread x y)
    (himp : ∀ e, Unread e → Unread' e) : Reversed Unread' x y := by
  cases h with
  | ordered o => exact .ordered o
  | incomparable left right => exact .incomparable left right
  | unread h h' => exact .unread (himp _ h) (himp _ h')

theorem symm (h : Reversed Unread x y) : Reversed Unread y x := by
  cases h with
  | ordered o =>
    have hback : Reversed Unread (.ok o.swap) (.ok o.swap.swap) := .ordered o.swap
    rwa [Ordering.swap_swap] at hback
  | incomparable left right => exact .incomparable right left
  | unread h h' => exact .unread h' h

theorem eq_ok (h : Reversed Unread x y) {o : Ordering} (hx : x = .ok o) : y = .ok o.swap := by
  cases h <;> cases hx
  rfl

theorem eq_incomparable (h : Reversed Unread x y)
    (hunread : ∀ left right, ¬Unread (.incomparable left right)) {left right : Kind}
    (hx : x = .error (.incomparable left right)) : y = .error (.incomparable right left) := by
  cases h with
  | ordered o => cases hx
  | incomparable => cases hx; rfl
  | unread h h' => cases hx; exact absurd h (hunread left right)

theorem error_cases (h : Reversed Unread x y) {e : QueryError} (hx : x = .error e) :
    (∃ left right, e = .incomparable left right) ∨ Unread e := by
  cases h with
  | ordered o => cases hx
  | incomparable left right => cases hx; exact .inl ⟨left, right, rfl⟩
  | unread h => cases hx; exact .inr h

theorem eq_of_self {o : Ordering} (h : Reversed Unread (.ok o) (.ok o)) : o = .eq := by
  have hswap : o = o.swap := Except.ok.inj (h.eq_ok rfl)
  cases o <;> cases hswap
  rfl

end Reversed

/-! ## Values -/

theorem Value.compare_reversed (Unread : QueryError → Prop) (v w : Value) :
    Reversed Unread (v.compare w) (w.compare v) := by
  have hordered {o o' : Ordering} (h : o' = o.swap) : Reversed Unread (.ok o) (.ok o') :=
    h ▸ .ordered o
  cases v <;> cases w
  case string.string => exact hordered Std.OrientedCmp.eq_swap
  case number.number => exact hordered (Number.compare_swap _ _)
  case timestamp.timestamp => exact hordered (Int.compare_swap _ _).symm
  case bool.bool => exact hordered Std.OrientedCmp.eq_swap
  all_goals exact .incomparable _ _

theorem Direction.apply_swap (d : Direction) (o : Ordering) :
    d.apply o.swap = (d.apply o).swap := by
  cases d <;> rfl

/-! ## Keys -/

namespace PathKey

/-- An error that one of the keys gives on one of two records. -/
def Unread (keys : List PathKey) (a b : Record) (e : QueryError) : Prop :=
  ∃ k ∈ keys, k.path.path.resolve a = .error e ∨ k.path.path.resolve b = .error e

theorem compareValues_reversed (Unread : QueryError → Prop) (k : PathKey) (v w : Option Value) :
    Reversed Unread (k.compareValues v w) (k.compareValues w v) := by
  cases v with
  | none =>
    cases w with
    | none => exact .ordered .eq
    | some w => exact .ordered _
  | some v =>
    cases w with
    | none => exact Reversed.symm (.ordered _)
    | some w =>
      have hvalues := v.compare_reversed Unread w
      rw [compareValues, compareValues]
      generalize v.compare w = x at hvalues ⊢
      generalize w.compare v = y at hvalues ⊢
      cases hvalues with
      | ordered o =>
        show Reversed Unread (.ok (k.direction.apply o)) (.ok (k.direction.apply o.swap))
        rw [Direction.apply_swap]
        exact .ordered _
      | incomparable left right => exact .incomparable left right
      | unread h h' => exact .unread h h'

theorem compareVia_reversed (k : PathKey) (a b : Record) :
    Reversed (Unread [k] a b) (k.compareVia .plain a b).run (k.compareVia .plain b a).run := by
  rw [compareVia_run, compareVia_run]
  cases ha : k.path.path.resolve a with
  | error e =>
    have he : Unread [k] a b e := ⟨k, List.mem_singleton_self k, .inl ha⟩
    cases hb : k.path.path.resolve b with
    | error e' => exact .unread he ⟨k, List.mem_singleton_self k, .inr hb⟩
    | ok w => exact .unread he he
  | ok v =>
    cases hb : k.path.path.resolve b with
    | error e =>
      have he : Unread [k] a b e := ⟨k, List.mem_singleton_self k, .inr hb⟩
      exact .unread he he
    | ok w => exact k.compareValues_reversed _ v w

/-- The key is resolved on the record, and what it finds is null or of an ordered kind. -/
def SelfOrdered (k : PathKey) (a : Record) : Prop :=
  ∃ found, k.path.path.resolve a = .ok found ∧
    ∀ v ∈ found, v.kind ∈ [Kind.string, .number, .timestamp, .bool]

theorem compareVia_self_iff {k : PathKey} {a : Record} :
    (k.compareVia .plain a a).run = .ok .eq ↔ k.SelfOrdered a := by
  constructor
  · intro h
    obtain ⟨v, w, hv, hw, hvalues⟩ := exists_of_compareVia h
    cases hv.symm.trans hw
    refine ⟨v, hv, ?_⟩
    rintro x rfl
    obtain ⟨o, ho, -⟩ := map_eq_ok_iff.mp hvalues
    exact (Value.comparable_iff.mp ⟨o, ho⟩).2
  · rintro ⟨v, hv, hkind⟩
    rw [compareVia_of_ok hv hv]
    cases v with
    | none => rfl
    | some x =>
      obtain ⟨o, ho⟩ := Value.comparable_iff.mpr ⟨rfl, hkind x rfl⟩
      have hself := x.compare_reversed (fun _ => False) x
      rw [ho] at hself
      rw [compareValues, ho, hself.eq_of_self]
      cases k.direction <;> rfl

end PathKey

theorem PropertyPath.resolve_ne_incomparable (p : PropertyPath) (r : Record) (left right : Kind) :
    p.resolve r ≠ .error (.incomparable left right) := by
  unfold resolve
  generalize p.segments = names
  induction names generalizing r with
  | nil => rintro ⟨⟩
  | cons name names ih =>
    rw [follow, step]
    cases r.get? name with
    | none => rintro ⟨⟩
    | some v =>
      simp only [bind, Except.bind]
      cases v.isNull with
      | true => rintro ⟨⟩
      | false =>
        cases names with
        | nil => rintro ⟨⟩
        | cons next names =>
          cases v.toRecord? with
          | none => rintro ⟨⟩
          | some inner => exact ih inner

namespace RecordOrder

/-- What the keys give turns around, since the key that decides is the same from both sides. -/
theorem compareKeys_reversed (keys : List PathKey) (a b : Record) :
    Reversed (PathKey.Unread keys a b) (compareKeys .plain keys a b).run
      (compareKeys .plain keys b a).run := by
  induction keys with
  | nil => exact .ordered .eq
  | cons k keys ih =>
    have hlater : Reversed (PathKey.Unread (k :: keys) a b) _ _ :=
      ih.mono fun e ⟨k', hk', he⟩ => ⟨k', List.mem_cons_of_mem k hk', he⟩
    have hfirst : Reversed (PathKey.Unread (k :: keys) a b) _ _ :=
      (k.compareVia_reversed a b).mono fun e ⟨k', hk', he⟩ =>
        ⟨k', List.mem_singleton.mp hk' ▸ List.mem_cons_self, he⟩
    rw [compareKeys_run_cons, compareKeys_run_cons]
    generalize (k.compareVia .plain a b).run = x at hfirst ⊢
    generalize (k.compareVia .plain b a).run = y at hfirst ⊢
    cases hfirst with
    | ordered o =>
      cases o with
      | eq => exact hlater
      | lt => exact .ordered .lt
      | gt => exact .ordered .gt
    | incomparable left right => exact .incomparable left right
    | unread h h' => exact .unread h h'

/-- A record is equal to itself where each key finds null in it or a value of an ordered kind. -/
theorem compareKeys_self_iff (keys : List PathKey) (a : Record) :
    (compareKeys .plain keys a a).run = .ok .eq ↔ ∀ k ∈ keys, k.SelfOrdered a := by
  induction keys with
  | nil => exact iff_of_true rfl fun _ hk => nomatch hk
  | cons k keys ih =>
    rw [List.forall_mem_cons, ← ih, ← PathKey.compareVia_self_iff, compareKeys_run_cons]
    generalize (k.compareVia .plain a a).run = x
    obtain e | o := x
    · exact iff_of_false (fun h => nomatch h) fun h => nomatch h.1
    · cases o with
      | eq => exact (and_iff_right rfl).symm
      | lt => exact iff_of_false (fun h => nomatch h) fun h => nomatch h.1
      | gt => exact iff_of_false (fun h => nomatch h) fun h => nomatch h.1

/-- With its records exchanged a comparison fails exactly where it fails, and gives the reverse
where it does not. -/
theorem compare_exchanged (o : RecordOrder) (a b : Record) :
    ((∃ r, o.compare a b = .ok r) ↔ ∃ r, o.compare b a = .ok r) ∧
      (∀ r, o.compare a b = .ok r ↔ o.compare b a = .ok r.swap) ∧
      (∀ left right, o.compare a b = .error (.incomparable left right) ↔
        o.compare b a = .error (.incomparable right left)) ∧
      (∀ e, o.compare a b = .error e → (∃ left right, e = .incomparable left right) ∨
        ∃ k ∈ o.keys, k.path.path.resolve a = .error e ∨ k.path.path.resolve b = .error e) ∧
      (o.compare a a = .ok .eq ∨ ∃ e, o.compare a a = .error e) ∧
      (o.compare a a = .ok .eq ↔ ∀ k ∈ o.keys, ∃ found, k.path.path.resolve a = .ok found ∧
        ∀ v ∈ found, v.kind ∈ [Kind.string, .number, .timestamp, .bool]) ∧
      ∀ c m, SlotMemory.Sound c m → a.Conforms c → b.Conforms c →
        ((o.compareVia .shared a b).run.run m).1 = o.compare a b := by
  have hab : Reversed (PathKey.Unread o.keys a b) (o.compare a b) (o.compare b a) :=
    compareKeys_reversed o.keys a b
  have hba := hab.symm
  have hunread (left right : Kind) : ¬PathKey.Unread o.keys a b (.incomparable left right) := by
    rintro ⟨k, -, h | h⟩
    · exact k.path.path.resolve_ne_incomparable a left right h
    · exact k.path.path.resolve_ne_incomparable b left right h
  refine ⟨⟨fun ⟨r, h⟩ => ⟨r.swap, hab.eq_ok h⟩, fun ⟨r, h⟩ => ⟨r.swap, hba.eq_ok h⟩⟩,
    fun r => ⟨hab.eq_ok, fun h => ?_⟩,
    fun left right => ⟨hab.eq_incomparable hunread, hba.eq_incomparable hunread⟩,
    fun e => hab.error_cases, ?_, compareKeys_self_iff o.keys a, fun c m hm hca hcb => ?_⟩
  · rw [hba.eq_ok h, Ordering.swap_swap]
  · have hself := compareKeys_reversed o.keys a a
    change Reversed _ (o.compare a a) (o.compare a a) at hself
    cases h : o.compare a a with
    | error e => exact .inr ⟨e, rfl⟩
    | ok r =>
      rw [h] at hself
      exact .inl (congrArg Except.ok hself.eq_of_self)
  · exact (compareKeys_yields rfl hca hcb m hm).1

/-- A string and a number under the second of two keys. -/
theorem compare_exchanged_kinds :
    let x : PathKey := ⟨⟨1, ⟨"x", by decide⟩⟩, .ascending, .first⟩
    let y : PathKey := ⟨⟨2, ⟨"y", by decide⟩⟩, .descending, .last⟩
    let record (y : Value) : Record := ⟨⟨0, "T", ["x", "y"]⟩, [.null, y]⟩
    let o : RecordOrder := ⟨[x, y]⟩
    let a := record (.string "a")
    let b := record (.number (.float .nan))
    o.compare a b = .error (.incomparable .string .number) ∧
      o.compare b a = .error (.incomparable .number .string) ∧ o.compare b b = .ok .eq := by
  intro x y record o a b
  have hab : o.compare a b = .error (.incomparable .string .number) := by cbv
  obtain ⟨-, -, hkinds, -⟩ := compare_exchanged o a b
  obtain ⟨-, -, -, -, -, hself, -⟩ := compare_exchanged o b b
  refine ⟨hab, (hkinds .string .number).mp hab, hself.mpr ?_⟩
  rw [List.forall_mem_cons, List.forall_mem_singleton]
  exact ⟨⟨none, by cbv, by simp⟩, some (.number (.float .nan)), by cbv, by simp [Value.kind]⟩

end RecordOrder

end RecordQuery
