import RecordQuery.Proofs.Filter.Trichotomy
import RecordQuery.Proofs.Order.Reversal
import RecordQuery.Proofs.Timestamp.Conversion

/-!
# Chronology

Conversions of times never turn two of them around, though both may come to the same timestamp. So
wherever timestamps of one conversion are told apart, by a comparison, a condition or a sort, the
times that they stem from are in that order.
-/

namespace RecordQuery

/-- The order of two keys under a direction. -/
def Direction.Puts {ι : Type} [LT ι] (d : Direction) (i j : ι) : Prop :=
  match d with
  | ascending => i < j
  | descending => j < i

namespace RecordOrder

theorem exists_first_of_compare {k : PathKey} {keys : List PathKey} {a b : Record} {o : Ordering}
    (h : (⟨k :: keys⟩ : RecordOrder).compare a b = .ok o) :
    ∃ first, (k.compareVia .plain a b).run = .ok first ∧ (first = .eq ∨ first = o) := by
  have hkeys : (compareKeys .plain (k :: keys) a b).run = .ok o := h
  rw [compareKeys_run_cons] at hkeys
  split at hkeys
  · rename_i hfirst
    exact ⟨.eq, hfirst, .inl rfl⟩
  · exact ⟨o, hkeys, .inr rfl⟩

end RecordOrder

namespace Timestamp

theorem compare_eq_lt_iff {a b : Timestamp} :
    a.compare b = .lt ↔ a.millis.toInt < b.millis.toInt := Int.compare_eq_lt

theorem compare_eq_gt_iff {a b : Timestamp} :
    a.compare b = .gt ↔ b.millis.toInt < a.millis.toInt := Int.compare_eq_gt

theorem compare_eq_eq_iff {a b : Timestamp} : a.compare b = .eq ↔ a = b := by
  refine Int.compare_eq_eq.trans ⟨ext_toInt, ?_⟩
  rintro rfl
  rfl

/-- Timestamps in the order of a direction, or equal. -/
def InOrder (d : Direction) (a b : Timestamp) : Prop := d.apply (a.compare b) ≠ .gt

theorem inOrder_iff {d : Direction} {a b : Timestamp} : InOrder d a b ↔
    match d with
    | .ascending => a.millis.toInt ≤ b.millis.toInt
    | .descending => b.millis.toInt ≤ a.millis.toInt := by
  unfold InOrder
  cases d with
  | ascending => exact Int.compare_ne_gt
  | descending =>
    refine (not_congr ?_).trans Int.not_lt
    exact Ordering.swap_eq_gt.trans compare_eq_lt_iff

theorem InOrder.trans {d : Direction} {a b c : Timestamp} (hab : InOrder d a b)
    (hbc : InOrder d b c) : InOrder d a c := by
  rw [inOrder_iff] at hab hbc ⊢
  cases d with
  | ascending => exact Int.le_trans hab hbc
  | descending => exact Int.le_trans hbc hab

/-- Wherever timestamps made by a conversion are told apart, what was converted is in that order. -/
structure KeepsOrder [Regex.Library] {ι : Type} [LT ι] (f : ι → Timestamp) : Prop where
  compare : ∀ i j, ((f i).compare (f j) = .lt → i < j) ∧ ((f i).compare (f j) = .gt → j < i)
  conditions : ∀ (path : SharedPath) (r : Record) (i j : ι),
    path.path.resolve r = .ok (some (.timestamp (f i))) → ∀ ignoreCase rest,
    ∃ before after,
      Filter.answer path .before ignoreCase (.timestamp (f j) :: rest) r = .ok before ∧
      Filter.answer path .after ignoreCase (.timestamp (f j) :: rest) r = .ok after ∧
      (before = true → i < j) ∧ (after = true → j < i) ∧
      (before = false → after = false → f i = f j)
  sort : ∀ {α : Type} [HasRecord α] (k : PathKey) (items : List α) (time : α → ι),
    (∀ x ∈ items, k.path.path.resolve (toRecord x) = .ok (some (.timestamp (f (time x))))) →
    (∃ sorted, (⟨[k]⟩ : RecordOrder).sort items = .ok sorted) ∧
      ∀ keys sorted, (⟨k :: keys⟩ : RecordOrder).sort items = .ok sorted →
        sorted.Perm items ∧
          sorted.Pairwise fun x y => f (time x) = f (time y) ∨ k.direction.Puts (time x) (time y)

section

variable {ι : Type} {f : ι → Timestamp}

theorem answer_of_times [Regex.Library] {path : SharedPath} {r : Record} {i : ι}
    (h : path.path.resolve r = .ok (some (.timestamp (f i)))) (j : ι) (ignoreCase : Bool)
    (rest : List Argument) {op : Operator} (hop : op ∈ Operator.orderings) :
    Filter.answer path op ignoreCase (.timestamp (f j) :: rest) r =
      .ok (op.accepts ((f i).compare (f j))) :=
  Filter.answer_ordering_some h hop ignoreCase rest

section

variable {α : Type} [HasRecord α] {k : PathKey} {items : List α} {time : α → ι}

theorem compareVia_of_times {x y : α}
    (hx : k.path.path.resolve (toRecord x) = .ok (some (.timestamp (f (time x)))))
    (hy : k.path.path.resolve (toRecord y) = .ok (some (.timestamp (f (time y))))) :
    (k.compareVia .plain (toRecord x) (toRecord y)).run =
      .ok (k.direction.apply ((f (time x)).compare (f (time y)))) :=
  PathKey.compareVia_of_ok hx hy

variable (htime : ∀ x ∈ items, k.path.path.resolve (toRecord x) =
  .ok (some (.timestamp (f (time x)))))

include htime

theorem sortable_of_times : k.Sortable items := by
  refine ⟨fun x hx => ⟨_, htime x hx⟩, ?_⟩
  refine List.pairwise_of_forall_mem_list fun x hx y hy v w hv hw => ?_
  cases (htime x hx).symm.trans hv
  cases (htime y hy).symm.trans hw
  exact ⟨_, rfl⟩

/-- However later keys decide between equal times, the times themselves end up in order. -/
theorem inOrder_of_sort {keys : List PathKey} {sorted : List α}
    (h : (⟨k :: keys⟩ : RecordOrder).sort items = .ok sorted) :
    sorted.Perm items ∧
      sorted.Pairwise fun x y => InOrder k.direction (f (time x)) (f (time y)) := by
  have hsort : Inquiry.sortBy items
      (fun x y => (⟨k :: keys⟩ : RecordOrder).compare (toRecord x) (toRecord y))
      (.insertion items.length) = .ok sorted := (Inquiry.sort_eq_sortBy _ items).symm.trans h
  refine Inquiry.pairwise_of_sortBy
    (R := fun x y => InOrder k.direction (f (time x)) (f (time y)))
    (Inquiry.insertion_derives _) (fun _ _ _ => InOrder.trans) (fun x hx y hy o ho => ?_) hsort
  obtain ⟨first, hfirst, hdecides⟩ := RecordOrder.exists_first_of_compare ho
  rw [compareVia_of_times (htime x hx) (htime y hy)] at hfirst
  have hle : k.direction.apply ((f (time x)).compare (f (time y))) = first := Except.ok.inj hfirst
  have hge : k.direction.apply ((f (time y)).compare (f (time x))) = first.swap := by
    rw [← hle, ← Direction.apply_swap]
    exact congrArg _ (Int.compare_swap _ _).symm
  refine ⟨fun hgt heq => ?_, fun hlt heq => ?_⟩
  · rw [hle] at heq
    rcases hdecides with rfl | rfl
    · cases heq
    · exact hgt heq
  · rw [hge, Ordering.swap_eq_gt] at heq
    rcases hdecides with rfl | rfl
    · cases heq
    · exact hlt heq

end

/-- A conversion that never turns two times around keeps their order everywhere. -/
theorem KeepsOrder.of_lt [Regex.Library] [LT ι]
    (h : ∀ i j, (f i).millis.toInt < (f j).millis.toInt → i < j) : KeepsOrder f := by
  have hcompare (i j : ι) :
      ((f i).compare (f j) = .lt → i < j) ∧ ((f i).compare (f j) = .gt → j < i) :=
    ⟨fun hlt => h i j (compare_eq_lt_iff.mp hlt), fun hgt => h j i (compare_eq_gt_iff.mp hgt)⟩
  refine ⟨hcompare, fun path r i j hr ignoreCase rest => ?_, fun k items time htime => ⟨?_, ?_⟩⟩
  · refine ⟨_, _, answer_of_times hr j ignoreCase rest (by decide),
      answer_of_times hr j ignoreCase rest (by decide), fun hbefore => ?_, fun hafter => ?_,
      fun hbefore hafter => ?_⟩
    · exact (hcompare i j).1 (beq_iff_eq.mp hbefore)
    · exact (hcompare i j).2 (beq_iff_eq.mp hafter)
    · rw [← compare_eq_eq_iff]
      revert hbefore hafter
      cases (f i).compare (f j) <;> decide
  · rw [RecordOrder.sort_eq_sortBy]
    exact RecordOrder.exists_sortBy_of_sortable Inquiry.insertion_distinct (sortable_of_times htime)
  · intro keys sorted hsort
    obtain ⟨hperm, hordered⟩ := inOrder_of_sort htime hsort
    refine ⟨hperm, hordered.imp fun {x y} hxy => ?_⟩
    by_cases heq : f (time x) = f (time y)
    · exact .inl heq
    · rw [inOrder_iff] at hxy
      have hne : (f (time x)).millis.toInt ≠ (f (time y)).millis.toInt := mt ext_toInt heq
      refine .inr ?_
      unfold Direction.Puts
      cases hd : k.direction with
      | ascending =>
        rw [hd] at hxy
        exact h _ _ (by dsimp only at hxy; omega)
      | descending =>
        rw [hd] at hxy
        exact h _ _ (by dsimp only at hxy; omega)

end

theorem millis_ofNanos_mono {m n : Int} (h : m ≤ n) :
    (ofNanos m).millis.toInt ≤ (ofNanos n).millis.toInt := by
  have hmillis : m.tdiv 1000000 ≤ n.tdiv 1000000 := Int.tdiv_le_tdiv (by decide) h
  rw [toInt_ofNanos, toInt_ofNanos]
  omega

theorem millis_ofSeconds_mono {s t : Int64} (h : s ≤ t) :
    (ofSeconds s).millis.toInt ≤ (ofSeconds t).millis.toInt := by
  rw [Int64.le_iff_toInt_le] at h
  rw [toInt_ofSeconds, toInt_ofSeconds]
  omega

theorem seconds_mono {a b : Timestamp} (h : a.millis ≤ b.millis) : a.seconds ≤ b.seconds := by
  rw [Int64.le_iff_toInt_le] at h ⊢
  rw [toInt_seconds, toInt_seconds]
  exact Int.tdiv_le_tdiv (by decide) h

theorem seconds_ofSeconds {s : Int64} (hlow : Int64.minValue.toInt ≤ s.toInt * 1000)
    (hhigh : s.toInt * 1000 ≤ Int64.maxValue.toInt) : (ofSeconds s).seconds = s := by
  have hmillis : (ofSeconds s).millis.toInt = s.toInt * 1000 := by
    rw [toInt_ofSeconds]
    omega
  rw [← Int64.toInt_inj, toInt_seconds, hmillis]
  exact Int.mul_tdiv_cancel _ (by decide)

/-- Later times do not give earlier timestamps, so neither comparing nor filtering nor sorting goes
against the order of the times that were converted. -/
theorem conversions_keep_order [Regex.Library] :
    (∀ m n : Int, m ≤ n → (ofNanos m).millis ≤ (ofNanos n).millis) ∧
    (∀ s t : Int64, s ≤ t → (ofSeconds s).millis ≤ (ofSeconds t).millis) ∧
    (∀ a b : Timestamp, a.millis ≤ b.millis → a.seconds ≤ b.seconds) ∧
    (∀ s : Int64, Int64.minValue.toInt ≤ s.toInt * 1000 →
      s.toInt * 1000 ≤ Int64.maxValue.toInt → (ofSeconds s).seconds = s) ∧
    ((∀ n, ofNanos? n = some (ofNanos n)) ∧ (∀ t, seconds? t = some t.seconds) ∧
      ∀ s : Int64, (ofSeconds s).millis.toInt =
        max Int64.minValue.toInt (min (s.toInt * 1000) Int64.maxValue.toInt)) ∧
    KeepsOrder ofNanos ∧ KeepsOrder ofSeconds := by
  refine ⟨fun m n h => ?_, fun s t h => ?_, fun a b => seconds_mono, fun s => seconds_ofSeconds,
    ⟨ofNanos?_eq, seconds?_eq, toInt_ofSeconds⟩, .of_lt fun m n h => ?_, .of_lt fun s t h => ?_⟩
  · exact Int64.le_iff_toInt_le.mpr (millis_ofNanos_mono h)
  · exact Int64.le_iff_toInt_le.mpr (millis_ofSeconds_mono h)
  · by_contra hle
    exact Int.not_le.mpr h (millis_ofNanos_mono (Int.not_lt.mp hle))
  · by_contra hle
    exact Int.not_le.mpr h (millis_ofSeconds_mono (Std.not_lt.mp hle))

/-- Instants before the range and next to the epoch, and the last seconds that come back. -/
theorem conversions_keep_order_ends :
    let path : SharedPath := ⟨0, "at", by decide⟩
    let r : Record := ⟨⟨0, "T", ["at"]⟩, [.timestamp (ofNanos (-1))]⟩
    (ofNanos (-9223372036854775809000000)).millis ≤ (ofNanos (-1)).millis ∧
      (ofSeconds (-9223372036854775)).seconds = -9223372036854775 ∧
      path.path.resolve r = .ok (some (.timestamp (ofNanos (-1)))) ∧
      Filter.answer path .after false [.timestamp (ofNanos 1)] r = .ok false := by
  intro path r
  obtain ⟨hinstants, -, -, hback, -, horder, -⟩ := conversions_keep_order
  have hr : path.path.resolve r = .ok (some (.timestamp (ofNanos (-1)))) := by cbv
  obtain ⟨-, after, -, hafter, -, hlater, -⟩ := horder.conditions path r (-1) 1 hr false []
  have hnot : after = false := by
    cases after with
    | false => rfl
    | true => exact absurd (hlater rfl) (by decide)
  exact ⟨hinstants _ _ (by decide), hback _ (by decide) (by decide), hr, hnot ▸ hafter⟩

end Timestamp

end RecordQuery
