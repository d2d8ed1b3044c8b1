import RecordQuery.Proofs.Order.Insertion
import RecordQuery.Proofs.Order.Keys
import RecordQuery.Proofs.Outcome

/-!
# Lists that one key sorts

A sort compares only some of the items, and null compares to everything. It fails all the same
wherever two keys cannot be compared: each comparison that does not fail tells that nulls stay on
their side and that, past them, kinds are the same, and this carries over from item to item.
-/

namespace RecordQuery

open Std

namespace Value

def Comparable (v w : Value) : Prop := ∃ o, v.compare w = .ok o

theorem comparable_iff {v w : Value} : v.Comparable w ↔
    v.kind = w.kind ∧ v.kind ∈ [Kind.string, .number, .timestamp, .bool] := by
  unfold Comparable
  cases v <;> cases w <;> simp [compare, kind]

theorem Comparable.symm {v w : Value} (h : v.Comparable w) : w.Comparable v := by
  rw [comparable_iff] at h ⊢
  exact ⟨h.1.symm, h.1 ▸ h.2⟩

theorem Comparable.trans {u v w : Value} (huv : u.Comparable v) (hvw : v.Comparable w) :
    u.Comparable w := by
  rw [comparable_iff] at huv hvw ⊢
  exact ⟨huv.1.trans hvw.1, huv.2⟩

theorem eq_iff_same_of_compare {v w : Value} {o : Ordering} (h : v.compare w = .ok o) :
    o = .eq ↔ v.same w = true := by
  cases v <;> cases w <;> cases h
  case string.string => simp [same]
  case number.number => exact decide_eq_true_iff.symm
  case timestamp.timestamp a b =>
    obtain ⟨a⟩ := a
    obtain ⟨b⟩ := b
    simp [same, Timestamp.compare, Int64.toInt_inj]
  case bool.bool => simp [same]

end Value

namespace PathKey

/-- What the key finds in two records is comparable, unless it finds null in one of them. -/
def Orderable (k : PathKey) (a b : Record) : Prop :=
  ∀ v w, k.path.path.resolve a = .ok (some v) → k.path.path.resolve b = .ok (some w) →
    v.Comparable w

/-- The key is resolved on all items, and every two of them have comparable keys or a null. -/
structure Sortable {α : Type} [HasRecord α] (k : PathKey) (items : List α) : Prop where
  resolved : ∀ x ∈ items, ∃ found, k.path.path.resolve (toRecord x) = .ok found
  orderable : items.Pairwise fun x y => k.Orderable (toRecord x) (toRecord y)

/-- Two keys are resolved and comparable, and null does not come on the wrong side. -/
def Precedes (k : PathKey) (a b : Record) : Prop :=
  ∃ v w, k.path.path.resolve a = .ok v ∧ k.path.path.resolve b = .ok w ∧
    (k.nulls.withNull (fun _ _ => .eq) v w).isLE ∧ ∀ x ∈ v, ∀ y ∈ w, x.Comparable y

theorem Precedes.trans {k : PathKey} {a b c : Record} (hab : k.Precedes a b)
    (hbc : k.Precedes b c) : k.Precedes a c := by
  obtain ⟨u, v, hu, hv, huv, hkinds⟩ := hab
  obtain ⟨v', w, hv', hw, hvw, hkinds'⟩ := hbc
  cases hv.symm.trans hv'
  refine ⟨u, w, hu, hw, TransCmp.isLE_trans huv hvw, fun x hx y hy => ?_⟩
  cases hx
  cases hy
  cases v with
  | none => exact absurd hvw (k.nulls.null_not_between _ huv)
  | some v => exact (hkinds x rfl v rfl).trans (hkinds' v rfl y rfl)

theorem exists_of_compareVia {k : PathKey} {a b : Record} {o : Ordering}
    (h : (k.compareVia .plain a b).run = .ok o) :
    ∃ v w, k.path.path.resolve a = .ok v ∧ k.path.path.resolve b = .ok w ∧
      k.compareValues v w = .ok o := by
  rw [compareVia_run] at h
  obtain ⟨v, hv, h⟩ := exists_of_bind_ok h
  obtain ⟨w, hw, h⟩ := exists_of_bind_ok h
  exact ⟨v, w, hv, hw, h⟩

theorem precedes_of_compareVia {k : PathKey} {a b : Record} {o : Ordering}
    (h : (k.compareVia .plain a b).run = .ok o) :
    (o ≠ .gt → k.Precedes a b) ∧ (o ≠ .lt → k.Precedes b a) := by
  obtain ⟨v, w, ha, hb, hvalues⟩ := exists_of_compareVia h
  have hkinds : ∀ x ∈ v, ∀ y ∈ w, x.Comparable y := by
    rintro x ⟨⟩ y ⟨⟩
    rw [compareValues] at hvalues
    cases hxy : x.compare y with
    | ok r => exact ⟨r, hxy⟩
    | error e =>
      rw [hxy] at hvalues
      cases hvalues
  have hnulls : (o ≠ .gt → (k.nulls.withNull (fun _ _ => .eq) v w).isLE) ∧
      (o ≠ .lt → (k.nulls.withNull (fun _ _ => .eq) w v).isLE) := by
    cases v <;> cases w
    case some.some => exact ⟨fun _ => rfl, fun _ => rfl⟩
    all_goals
      cases hvalues
      cases k.nulls <;> simp [NullPlacement.withNull, NullPlacement.nullToValue]
  refine ⟨fun ho => ⟨v, w, ha, hb, hnulls.1 ho, hkinds⟩, fun ho => ?_⟩
  exact ⟨w, v, hb, ha, hnulls.2 ho, fun y hy x hx => (hkinds x hx y hy).symm⟩

theorem Orderable.symm {k : PathKey} {a b : Record} (h : k.Orderable a b) : k.Orderable b a :=
  fun v w hv hw => (h w v hw hv).symm

theorem Precedes.orderable {k : PathKey} {a b : Record} (h : k.Precedes a b) :
    k.Orderable a b := by
  obtain ⟨v, w, hv, hw, -, hkinds⟩ := h
  intro x y hx hy
  cases hv.symm.trans hx
  cases hw.symm.trans hy
  exact hkinds x rfl y rfl

theorem Precedes.resolved {k : PathKey} {a b : Record} (h : k.Precedes a b) :
    (∃ v, k.path.path.resolve a = .ok v) ∧ ∃ w, k.path.path.resolve b = .ok w := by
  obtain ⟨v, w, hv, hw, -, -⟩ := h
  exact ⟨⟨v, hv⟩, w, hw⟩

theorem Sortable.of_pairwise {α : Type} [HasRecord α] {k : PathKey} {items : List α}
    (hlength : 2 ≤ items.length)
    (h : items.Pairwise fun x y =>
      k.Precedes (toRecord x) (toRecord y) ∨ k.Precedes (toRecord y) (toRecord x)) :
    k.Sortable items := by
  refine ⟨fun x hx => ?_, h.imp fun hxy => ?_⟩
  · match items with
    | y :: z :: rest =>
      rcases List.mem_cons.mp hx with rfl | hx
      · have hxz := List.rel_of_pairwise_cons h List.mem_cons_self
        exact hxz.elim (·.resolved.1) (·.resolved.2)
      · have hyx := List.rel_of_pairwise_cons h hx
        exact hyx.elim (·.resolved.2) (·.resolved.1)
  · exact hxy.elim Precedes.orderable fun hyx => hyx.orderable.symm

theorem exists_compareVia {k : PathKey} {a b : Record}
    (ha : ∃ v, k.path.path.resolve a = .ok v) (hb : ∃ w, k.path.path.resolve b = .ok w)
    (h : k.Orderable a b) : ∃ o, (k.compareVia .plain a b).run = .ok o := by
  obtain ⟨v, ha⟩ := ha
  obtain ⟨w, hb⟩ := hb
  rw [compareVia_of_ok ha hb]
  cases v with
  | none => cases w <;> exact ⟨_, rfl⟩
  | some v =>
    cases w with
    | none => exact ⟨_, rfl⟩
    | some w =>
      obtain ⟨r, hr⟩ := h v w ha hb
      rw [compareValues, hr]
      exact ⟨_, rfl⟩

end PathKey

namespace RecordOrder

theorem compare_single (k : PathKey) (a b : Record) :
    (⟨[k]⟩ : RecordOrder).compare a b = (k.compareVia .plain a b).run := by
  have hkeys := compareKeys_run_cons k [] a b
  generalize (k.compareVia .plain a b).run = result at hkeys ⊢
  obtain e | o := result
  · exact hkeys
  · cases o <;> exact hkeys

section

variable {α : Type} [HasRecord α] {k : PathKey} {items : List α}
  {t : Inquiry (Fin items.length) (List (Fin items.length))}

def compareBy (k : PathKey) (x y : α) : Except QueryError Ordering :=
  (⟨[k]⟩ : RecordOrder).compare (toRecord x) (toRecord y)

theorem exists_sortBy_of_sortable (ht : ∀ ans, ∀ p ∈ t.asked ans, p.1 ≠ p.2)
    (h : k.Sortable items) : ∃ sorted, Inquiry.sortBy items (compareBy k) t = .ok sorted := by
  refine Inquiry.exists_sortBy ht (h.orderable.imp_of_mem fun {x y} hx hy hxy => ?_)
  have hx := h.resolved x hx
  have hy := h.resolved y hy
  simp only [compareBy, compare_single]
  exact ⟨PathKey.exists_compareVia hx hy hxy, PathKey.exists_compareVia hy hx hxy.symm⟩

theorem sortable_of_exists_sortBy
    (ht : t.Derives (Inquiry.answer (Inquiry.comparePositions items (compareBy k))))
    (hlength : 2 ≤ items.length)
    (h : ∃ sorted, Inquiry.sortBy items (compareBy k) t = .ok sorted) : k.Sortable items := by
  refine .of_pairwise hlength ?_
  refine Inquiry.related_of_sortBy (R := fun x y => k.Precedes (toRecord x) (toRecord y)) ht
    (fun _ _ _ => PathKey.Precedes.trans) (fun x y o ho => ?_) h
  rw [compareBy, compare_single] at ho
  exact PathKey.precedes_of_compareVia ho

theorem exists_sortBy_of_length_le_one (ht : ∀ ans, ∀ p ∈ t.asked ans, p.1 ≠ p.2)
    (hlength : items.length ≤ 1) :
    ∃ sorted, Inquiry.sortBy items (compareBy k) t = .ok sorted := by
  refine Inquiry.exists_sortBy ht ?_
  match items with
  | [] => exact .nil
  | [x] => exact List.pairwise_singleton _ x

theorem sort_eq_sortBy (k : PathKey) (items : List α) :
    (⟨[k]⟩ : RecordOrder).sort items =
      Inquiry.sortBy items (compareBy k) (.insertion items.length) :=
  Inquiry.sort_eq_sortBy (compareBy k) items

/-- Two items or more are sorted by one key exactly if the key is resolved on all of them and every
two of its values other than null are of the same ordered kind. -/
theorem sort_ok_iff_sortable (k : PathKey) (items : List α) :
    (items.length ≤ 1 → (⟨[k]⟩ : RecordOrder).sort items = .ok items) ∧
      (2 ≤ items.length →
        ((∃ sorted, (⟨[k]⟩ : RecordOrder).sort items = .ok sorted) ↔ k.Sortable items)) ∧
      (∀ v w : Value, v.Comparable w ↔
        v.kind = w.kind ∧ v.kind ∈ [Kind.string, .number, .timestamp, .bool]) ∧
      ((Query.sortVia .plain ⟨[k]⟩ items).run = (⟨[k]⟩ : RecordOrder).sort items ∧
        ∀ c m, SlotMemory.Sound c m → (∀ x ∈ items, (toRecord x).Conforms c) →
          ((Query.sortVia .shared ⟨[k]⟩ items).run.run m).1 =
            (⟨[k]⟩ : RecordOrder).sort items) ∧
      ∀ t : Inquiry (Fin items.length) (List (Fin items.length)), t.SortsStably →
        (items.length ≤ 1 ∨ k.Sortable items →
          ∃ sorted, t.sortBy items (compareBy k) = .ok sorted) ∧
        (2 ≤ items.length → Inquiry.Consistent items (compareBy k) →
          (∃ sorted, t.sortBy items (compareBy k) = .ok sorted) → k.Sortable items) := by
  refine ⟨fun hlength => ?_, fun hlength => ?_, fun v w => Value.comparable_iff, ⟨rfl, ?_⟩, ?_⟩
  · match items with
    | [] => rfl
    | [x] => rfl
  · rw [sort_eq_sortBy]
    exact ⟨sortable_of_exists_sortBy (Inquiry.insertion_derives _) hlength,
      exists_sortBy_of_sortable Inquiry.insertion_distinct⟩
  · intro c m hm hitems
    exact (Query.sortVia_yields rfl hitems m hm).1
  · intro t ht
    refine ⟨?_, fun hlength hconsistent h => ?_⟩
    · rintro (hlength | hsortable)
      · exact exists_sortBy_of_length_le_one ht.distinct hlength
      · exact exists_sortBy_of_sortable ht.distinct hsortable
    · exact sortable_of_exists_sortBy (ht.derives_of_consistent hconsistent h) hlength h

end

/-- A null between a string and a number does not keep any sort from noticing them. -/
theorem sort_ok_iff_sortable_mixed :
    let k : PathKey := ⟨⟨1, ⟨"x", by decide⟩⟩, .ascending, .first⟩
    let record (x : Value) : Record := ⟨⟨0, "T", ["x"]⟩, [x]⟩
    let mixed := [record (.string "a"), record .null, record (.number (.signed 1))]
    let strings := [record (.string "b"), record .null, record (.string "a")]
    (¬∃ sorted, (⟨[k]⟩ : RecordOrder).sort mixed = .ok sorted) ∧
      (∃ sorted, (⟨[k]⟩ : RecordOrder).sort strings = .ok sorted) ∧
      (⟨[k]⟩ : RecordOrder).sort [record (.list [])] = .ok [record (.list [])] ∧
      (Inquiry.insertion 3).SortsStably ∧
      ∀ t : Inquiry (Fin 3) (List (Fin 3)), t.SortsStably →
        (¬∃ sorted, t.sortBy mixed (compareBy k) = .ok sorted) ∧
          ∃ sorted, t.sortBy strings (compareBy k) = .ok sorted := by
  intro k record mixed strings
  have hresolve (x : Value) :
      k.path.path.resolve (record x) = .ok (if x.isNull then none else some x) := by
    have hsegments : k.path.path.segments = ["x"] := by cbv
    have hstep : PropertyPath.step "x" (record x) = .ok x := rfl
    rw [PropertyPath.resolve, hsegments, PropertyPath.follow, hstep]
    cases x <;> rfl
  have hmixed : ¬k.Sortable mixed := by
    intro h
    have hpair := List.rel_of_pairwise_cons h.orderable (List.mem_cons_of_mem _ List.mem_cons_self)
    have hcomparable := hpair _ _ (hresolve _) (hresolve _)
    rw [Value.comparable_iff] at hcomparable
    simp [Value.kind] at hcomparable
  have hstrings : k.Sortable strings := by
    refine ⟨?_, ?_⟩
    · simp only [strings, List.forall_mem_cons]
      exact ⟨⟨_, hresolve _⟩, ⟨_, hresolve _⟩, ⟨_, hresolve _⟩, by simp⟩
    · have hstring {x : Value} (hx : x ∈ [.string "b", .null, .string "a"]) {v : Value}
          (hv : k.path.path.resolve (record x) = .ok (some v)) : v.kind = .string := by
        rw [hresolve] at hv
        simp only [List.mem_cons, List.not_mem_nil, or_false] at hx
        rcases hx with rfl | rfl | rfl <;> cases hv <;> rfl
      refine List.pairwise_map (f := record) (l := [.string "b", .null, .string "a"]) |>.mpr ?_
      refine List.pairwise_of_forall_mem_list fun x hx y hy v w hv hw => ?_
      rw [Value.comparable_iff, hstring hx hv, hstring hy hw]
      decide
  have hconsistent : Inquiry.Consistent mixed (compareBy k) := by
    have hcompare (x y : Value) : compareBy k (record x) (record y) =
        k.compareValues (if x.isNull then none else some x) (if y.isNull then none else some y) :=
      (compare_single k _ _).trans (PathKey.compareVia_of_ok (hresolve x) (hresolve y))
    refine ⟨compareOn fun r : Record => (r.valueAt 0).isNull.not, inferInstance, ?_⟩
    simp only [mixed, List.mem_cons, List.not_mem_nil, or_false]
    rintro x (rfl | rfl | rfl) y (rfl | rfl | rfl) o ho <;> rw [hcompare] at ho <;> cases ho <;>
      decide
  obtain ⟨-, hsort, -⟩ := sort_ok_iff_sortable k mixed
  obtain ⟨-, hsort', -⟩ := sort_ok_iff_sortable k strings
  refine ⟨fun h => hmixed ((hsort (by decide)).mp h), (hsort' (by decide)).mpr hstrings,
    (sort_ok_iff_sortable k [record (.list [])]).1 (by decide), Inquiry.insertion_sortsStably 3,
    fun t ht => ⟨fun h => ?_, ?_⟩⟩
  · exact hmixed (((sort_ok_iff_sortable k mixed).2.2.2.2 t ht).2 (by decide) hconsistent h)
  · exact ((sort_ok_iff_sortable k strings).2.2.2.2 t ht).1 (.inr hstrings)

end RecordOrder

end RecordQuery
