import RecordQuery.Proofs.Number.Order
import RecordQuery.Proofs.Outcome
import RecordQuery.Proofs.Query.Memory

/-!
# Orders by keys

Where a sort key finds values of one kind only, comparing by it never fails and is a total
preorder: null stands at one end, and the direction turns around what is between values. Several
keys compare lexicographically, which keeps a total preorder one.
-/

namespace RecordQuery

open Std

/-- Kinds of values within which the natural order is total. Integers, signed or not, are told
apart from binary64 numbers, since the two together need not be (`Number.compare_preorder_iff`). -/
inductive KeyKind where
  | string | bool | timestamp | integer | float

namespace KeyKind

/-- Whether a value is of a kind. -/
def Holds : KeyKind → Value → Prop
  | string, .string _ => True
  | bool, .bool _ => True
  | timestamp, .timestamp _ => True
  | integer, .number n => n.toInt? ≠ none
  | float, .number n => n.toInt? = none
  | _, _ => False

/-- Within a kind, values are compared by ranks. -/
theorem exists_compare (kind : KeyKind) :
    ∃ ord : Value → Value → Ordering, TransCmp ord ∧
      ∀ v w, kind.Holds v → kind.Holds w → v.compare w = .ok (ord v w) := by
  cases kind with
  | string =>
    refine ⟨compareOn Value.toString?, inferInstance, fun v w hv hw => ?_⟩
    cases v <;> cases hv
    cases w <;> cases hw
    rfl
  | bool =>
    refine ⟨compareOn Value.toBool?, inferInstance, fun v w hv hw => ?_⟩
    cases v <;> cases hv
    cases w <;> cases hw
    rfl
  | timestamp =>
    refine ⟨compareOn fun v => v.toTimestamp?.map fun t => t.millis.toInt, inferInstance,
      fun v w hv hw => ?_⟩
    cases v <;> cases hv
    cases w <;> cases hw
    rfl
  | integer =>
    refine ⟨compareOn fun v => v.toNumber?.bind Number.toInt?, inferInstance, fun v w hv hw => ?_⟩
    cases v with
    | number m =>
      cases w with
      | number n =>
        obtain ⟨i, hi⟩ := Option.ne_none_iff_exists'.mp hv
        obtain ⟨j, hj⟩ := Option.ne_none_iff_exists'.mp hw
        simp only [Value.compare, Number.compare_of_ints hi hj, compareOn, Value.toNumber?,
          Option.bind_some, hi, hj]
        rfl
      | _ => cases hw
    | _ => cases hv
  | float =>
    refine ⟨compareOn fun v => v.toNumber?.map Number.place, inferInstance, fun v w hv hw => ?_⟩
    cases v with
    | number m =>
      cases w with
      | number n => exact congrArg Except.ok (Number.compare_of_float (.inl hv))
      | _ => cases hw
    | _ => cases hv

end KeyKind

/-! ## One key -/

instance transCmp_eq {α : Type} : TransCmp fun (_ _ : α) => Ordering.eq where
  eq_swap := rfl
  isLE_trans _ _ := rfl

instance (d : Direction) {α : Type} (ord : α → α → Ordering) [hord : TransCmp ord] :
    TransCmp fun a b => d.apply (ord a b) := by
  cases d with
  | ascending => exact hord
  | descending =>
    have hswap : (fun a b => Direction.descending.apply (ord a b)) = fun a b => ord b a :=
      funext fun a => funext fun b => hord.eq_swap.symm
    rw [hswap]
    exact TransCmp.opposite

namespace NullPlacement

/-- An order of values with null at one end. -/
def withNull {α : Type} (nulls : NullPlacement) (ord : α → α → Ordering) :
    Option α → Option α → Ordering
  | none, none => .eq
  | none, some _ => nulls.nullToValue
  | some _, none => nulls.nullToValue.swap
  | some a, some b => ord a b

instance {α : Type} (nulls : NullPlacement) (ord : α → α → Ordering) [hord : TransCmp ord] :
    TransCmp (nulls.withNull ord) where
  eq_swap {x y} := by
    cases x <;> cases y
    case some.some => exact hord.eq_swap
    all_goals cases nulls <;> rfl
  isLE_trans {x y z} := by
    cases x <;> cases y <;> cases z
    case some.some.some => exact hord.isLE_trans
    all_goals cases nulls <;> simp [withNull, nullToValue]

theorem null_not_between {α : Type} (nulls : NullPlacement) (ord : α → α → Ordering) {a b : α}
    (ha : (nulls.withNull ord (some a) none).isLE) : ¬(nulls.withNull ord none (some b)).isLE := by
  cases nulls <;> simp_all [withNull, nullToValue]

end NullPlacement

namespace PathKey

/-- What a key finds in a record, null where it fails. -/
def found (k : PathKey) (r : Record) : Option Value :=
  match k.path.path.resolve r with
  | .ok found => found
  | .error _ => none

theorem found_of_ok {k : PathKey} {r : Record} {v : Option Value}
    (h : k.path.path.resolve r = .ok v) : k.found r = v := by
  rw [found, h]

theorem compareVia_run (k : PathKey) (a b : Record) :
    (k.compareVia .plain a b).run =
      k.path.path.resolve a >>= fun v => k.path.path.resolve b >>= k.compareValues v :=
  (run_bind_plain _ _).trans (congrArg _ (funext fun _ => run_bind_plain _ _))

theorem compareVia_of_ok {k : PathKey} {a b : Record} {v w : Option Value}
    (ha : k.path.path.resolve a = .ok v) (hb : k.path.path.resolve b = .ok w) :
    (k.compareVia .plain a b).run = k.compareValues v w := by
  rw [compareVia_run, ha, hb]
  rfl

/-- On all of the records the key is resolved, and what it finds is null or of one kind. -/
def Homogeneous (k : PathKey) (records : Set Record) : Prop :=
  ∃ kind : KeyKind, ∀ r ∈ records, ∃ found, k.path.path.resolve r = .ok found ∧
    ∀ v ∈ found, kind.Holds v

theorem Homogeneous.exists_compare {k : PathKey} {records : Set Record}
    (h : k.Homogeneous records) :
    ∃ ord : Record → Record → Ordering, TransCmp ord ∧
      ∀ a ∈ records, ∀ b ∈ records, (k.compareVia .plain a b).run = .ok (ord a b) := by
  obtain ⟨kind, hfound⟩ := h
  obtain ⟨ord, hord, hcompare⟩ := kind.exists_compare
  let placed := k.nulls.withNull fun v w => k.direction.apply (ord v w)
  have hplaced : TransCmp placed := inferInstance
  refine ⟨fun a b => placed (k.found a) (k.found b),
    { eq_swap := hplaced.eq_swap, isLE_trans := hplaced.isLE_trans }, fun a ha b hb => ?_⟩
  obtain ⟨v, hv, hkind⟩ := hfound a ha
  obtain ⟨w, hw, hkind'⟩ := hfound b hb
  change _ = Except.ok (placed (k.found a) (k.found b))
  rw [compareVia_of_ok hv hw, found_of_ok hv, found_of_ok hw]
  cases v with
  | none => cases w <;> rfl
  | some v =>
    cases w with
    | none => rfl
    | some w =>
      rw [compareValues, hcompare v w (hkind v rfl) (hkind' w rfl)]
      rfl

end PathKey

/-! ## Several keys -/

namespace RecordOrder

theorem compareKeys_run_cons (k : PathKey) (keys : List PathKey) (a b : Record) :
    (compareKeys .plain (k :: keys) a b).run =
      match (k.compareVia .plain a b).run with
      | .ok .eq => (compareKeys .plain keys a b).run
      | result => result := by
  rw [compareKeys, ExceptT.run_bind]
  generalize (k.compareVia .plain a b).run = result
  obtain e | o := result
  · rfl
  · cases o <;> rfl

theorem exists_compareKeys {keys : List PathKey} {records : Set Record}
    (h : ∀ k ∈ keys, k.Homogeneous records) :
    ∃ ord : Record → Record → Ordering, TransCmp ord ∧
      ∀ a ∈ records, ∀ b ∈ records, (compareKeys .plain keys a b).run = .ok (ord a b) := by
  induction keys with
  | nil => exact ⟨fun _ _ => .eq, inferInstance, fun _ _ _ _ => rfl⟩
  | cons k keys ih =>
    obtain ⟨hk, hkeys⟩ := List.forall_mem_cons.mp h
    obtain ⟨first, _, hfirst⟩ := hk.exists_compare
    obtain ⟨later, _, hlater⟩ := ih hkeys
    refine ⟨compareLex first later, inferInstance, fun a ha b hb => ?_⟩
    rw [compareKeys_run_cons, hfirst a ha b hb, hlater a ha b hb, compareLex]
    cases first a b <;> rfl

/-- An order whose keys each find values of one kind never fails on the records, and is a total
preorder on them. -/
theorem compare_of_homogeneous (o : RecordOrder) (records : Set Record)
    (h : ∀ k ∈ o.keys, k.Homogeneous records) :
    ∃ ord : Record → Record → Ordering,
      (∀ a ∈ records, ∀ b ∈ records, o.compare a b = .ok (ord a b) ∧
        ∀ c m, SlotMemory.Sound c m → a.Conforms c → b.Conforms c →
          ((o.compareVia .shared a b).run.run m).1 = .ok (ord a b)) ∧
      (∀ a, ord a a = .eq) ∧ (∀ a b, ord b a = (ord a b).swap) ∧
      (∀ a b c, ord a b ≠ .gt → ord b c ≠ .gt → ord a c ≠ .gt) ∧
      (∀ a b c, ord a b = .eq → ord b c = .eq → ord a c = .eq) := by
  obtain ⟨ord, hord, hcompare⟩ := exists_compareKeys h
  refine ⟨ord, fun a ha b hb => ?_, ?_, ?_, ?_, ?_⟩
  · refine ⟨hcompare a ha b hb, fun c m hm hca hcb => ?_⟩
    rw [← hcompare a ha b hb]
    exact (compareKeys_yields rfl hca hcb m hm).1
  · exact fun a => ReflCmp.compare_self
  · exact fun a b => OrientedCmp.eq_swap
  · simp only [← Ordering.isLE_iff_ne_gt]
    exact fun a b c => TransCmp.isLE_trans
  · exact fun a b c => TransCmp.eq_trans

/-- NaN and null under a descending key with nulls last; the second key mixes signed and unsigned
integers. -/
theorem compare_of_homogeneous_nan :
    let x : PathKey := ⟨⟨1, ⟨"x", by decide⟩⟩, .descending, .last⟩
    let n : PathKey := ⟨⟨2, ⟨"n", by decide⟩⟩, .ascending, .first⟩
    let o : RecordOrder := ⟨[x, n]⟩
    let record (x : Value) (n : Number) : Record := ⟨⟨0, "T", ["x", "n"]⟩, [x, .number n]⟩
    let a := record (.number (.float .nan)) (.signed (-1))
    let b := record (.number (.float .nan)) (.unsigned 1)
    let c := record .null (.signed 0)
    (∀ k ∈ o.keys, k.Homogeneous {a, b, c}) ∧ o.compare a b = .ok .lt ∧ o.compare b c = .ok .lt ∧
      o.compare a c = .ok .lt ∧ o.compare c a = .ok .gt ∧ o.compare b b = .ok .eq := by
  intro x n o record a b c
  have hx : x.Homogeneous {a, b, c} := by
    refine ⟨.float, ?_⟩
    rintro r (rfl | rfl | rfl)
    · exact ⟨some (.number (.float .nan)), by cbv, by rintro v ⟨⟩; rfl⟩
    · exact ⟨some (.number (.float .nan)), by cbv, by rintro v ⟨⟩; rfl⟩
    · exact ⟨none, by cbv, by simp⟩
  have hn : n.Homogeneous {a, b, c} := by
    have hinteger : ∀ i, KeyKind.integer.Holds (.number (.signed i)) := by
      simp [KeyKind.Holds, Number.toInt?]
    refine ⟨.integer, ?_⟩
    rintro r (rfl | rfl | rfl)
    · exact ⟨some (.number (.signed (-1))), by cbv, by rintro v ⟨⟩; exact hinteger _⟩
    · exact ⟨some (.number (.unsigned 1)), by cbv,
        by rintro v ⟨⟩; simp [KeyKind.Holds, Number.toInt?]⟩
    · exact ⟨some (.number (.signed 0)), by cbv, by rintro v ⟨⟩; exact hinteger _⟩
  have hkeys : ∀ k ∈ o.keys, k.Homogeneous {a, b, c} :=
    List.forall_mem_cons.mpr ⟨hx, List.forall_mem_singleton.mpr hn⟩
  obtain ⟨ord, hcompare, hself, hswap, -, -⟩ := compare_of_homogeneous o {a, b, c} hkeys
  have hac : o.compare a c = .ok .lt := by cbv
  have hord : ord a c = .lt := Except.ok.inj ((hcompare a (by simp) c (by simp)).1.symm.trans hac)
  refine ⟨hkeys, by cbv, by cbv, hac, ?_, ?_⟩
  · rw [(hcompare c (by simp) a (by simp)).1, hswap, hord]
    rfl
  · rw [(hcompare b (by simp) b (by simp)).1, hself]

end RecordOrder

end RecordQuery
