import RecordQuery.Proofs.Engine.Counting

/-!
# Pages

The pages of a query cut its results into consecutive parts. The place where a page starts is a
product that may not fit in a word; it is clamped then, but to a place that lies behind all results.
-/

namespace RecordQuery

namespace Query

/-- The most that an offset or a number of rows can say. -/
def lastCount : Nat := Int64.maxValue.toInt.toNat

theorem countOf?_clampInt64 (n : Nat) : countOf? (clampInt64 n) = some (min n lastCount) := by
  have hclamped := toInt_clampInt64 n
  have hmax : Int64.maxValue.toInt = 2 ^ 63 - 1 := by decide
  have hmin : Int64.minValue.toInt = -2 ^ 63 := by decide
  rw [hmin, hmax] at hclamped
  have hset : ¬clampInt64 n < 0 := by
    rw [Int64.lt_iff_toInt_lt, hclamped, Int64.toInt_zero]
    omega
  rw [countOf?, if_neg hset, hclamped, lastCount, hmax]
  congr 1
  omega

/-- The results of a page. -/
def slice {α : Type} (results : List α) (index size : Nat) : List α :=
  results.extract (index * size) (min ((index + 1) * size) results.length)

section

variable {α : Type}

theorem slice_eq_take (results : List α) (index size : Nat) :
    slice results index size = (results.drop (index * size)).take size := by
  have hstop : (index + 1) * size = index * size + size := Nat.succ_mul index size
  rw [slice, List.extract_eq_take_drop, List.take_eq_take_iff, List.length_drop]
  omega

theorem flatMap_slice (results : List α) (size count : Nat) :
    (List.range count).flatMap (slice results · size) = results.take (count * size) := by
  induction count with
  | zero => rw [Nat.zero_mul, List.take_zero]; rfl
  | succ count ih =>
    rw [List.range_succ, List.flatMap_append, ih, List.flatMap_singleton, slice_eq_take,
      Nat.succ_mul, List.take_add]

theorem slice_eq_nil {results : List α} {index size : Nat}
    (h : results.length ≤ index * size) : slice results index size = [] := by
  rw [slice_eq_take, List.drop_eq_nil_of_le h, List.take_nil]

/-- A bound that is clamped cuts where the bound itself does, as long as the results can be
counted. -/
theorem window_page (q : Query) {results : List α} (h : results.length ≤ lastCount)
    (index size : Nat) : (q.page index size).window results = slice results index size := by
  have hoffset : (q.page index size).offset? = _ := countOf?_clampInt64 (saturatingMul index size)
  have hlimit : (q.page index size).limit? = _ := countOf?_clampInt64 size
  -- a product that fits in no word is cut down, but not below any number of results
  have hlast : lastCount < UInt64.size - 1 := by decide
  have hdrop : results.drop (min (saturatingMul index size) lastCount) =
      results.drop (index * size) := by
    rw [List.drop_eq_drop_iff, saturatingMul]
    omega
  have htake : (results.drop (index * size)).take (min size lastCount) =
      (results.drop (index * size)).take size := by
    rw [List.take_eq_take_iff, List.length_drop]
    omega
  rw [window, hoffset, hlimit]
  exact (congrArg _ hdrop).trans (htake.trans (slice_eq_take results index size).symm)

end

section

variable {α : Type} [HasRecord α] {q : Query} {items results : List α}

/-- A query with bounds takes its window of what the same query selects without them. -/
theorem select_of_unbounded (hoffset : q.offset? = none) (hlimit : q.limit? = none)
    (h : q.select items = .ok results) (offset rows : Int64) :
    let bounded : Query := { q with offset, rows }
    bounded.select items = .ok (bounded.window results) := by
  intro bounded
  obtain ⟨o, ho, hselect⟩ := exists_of_bind_ok h
  have hbounded : bounded.select items = (bounded.selectVia .plain o items).run :=
    congrArg (· >>= _) ho
  change (q.selectVia .plain o items).run = .ok results at hselect
  rw [selectVia_plain] at hselect
  obtain ⟨sorted, hsorted, hkept⟩ := exists_of_bind_ok hselect
  rw [hbounded, selectVia_plain, hsorted]
  simp only [Except.bind]
  generalize keep q.filter sorted = kept at hkept ⊢
  obtain e | kept := kept
  · cases hkept
  · rw [← window_of_unbounded hoffset hlimit kept, Except.ok.inj hkept]
    rfl

/-- The pages of a query cut what it selects without bounds, wherever they lie. A page behind the
last result is empty. Enough pages, put together, are the whole, each of its items in its place. -/
theorem select_page_eq_slice (q : Query) (hoffset : q.offset? = none) (hlimit : q.limit? = none)
    (items results : List α) (h : q.select items = .ok results)
    (hlast : results.length ≤ lastCount) (size : Nat) :
    let page (index : Nat) := (q.page index size).select items
    (∀ index, page index = .ok (slice results index size) ∧
      (results.length ≤ index * size → page index = .ok [])) ∧
    (∀ (c : Catalog) (memory : SlotMemory), memory.Sound c →
      (∀ x ∈ items, (toRecord x).Conforms c) → ∀ index,
        (((q.page index size).selectShared items).run.run memory).1 = page index) ∧
    ∀ count, ∃ pages, (List.range count).mapM page = .ok pages ∧
      pages.flatten = results.take (count * size) ∧
      (0 < size → results.length ≤ count → pages.flatten = results) := by
  intro page
  have hpage (index : Nat) : page index = .ok (slice results index size) := by
    rw [← window_page q hlast index size]
    exact select_of_unbounded hoffset hlimit h _ _
  refine ⟨fun index => ⟨hpage index, fun hbehind => ?_⟩, fun c memory hm hitems index => ?_,
    fun count => ⟨(List.range count).map (slice results · size), ?_, ?_, fun hsize hcount => ?_⟩⟩
  · rw [hpage, slice_eq_nil hbehind]
  · exact (q.page index size).selectShared_eq hm hitems
  · rw [funext hpage]
    exact List.mapM_pure
  · rw [← List.flatMap_def, flatMap_slice]
  · rw [← List.flatMap_def, flatMap_slice]
    exact List.take_of_length_le (hcount.trans (Nat.le_mul_of_pos_right count hsize))

/-- Three sorted records in pages of two. Where the place of the first record of a page fits in no
word, the page is empty. -/
theorem select_page_eq_slice_overflowing :
    let record (n : Int64) : Record := ⟨⟨0, "T", ["n"]⟩, [.number (.signed n)]⟩
    let q : Query := { keys := [⟨"n", .ascending, .first⟩] }
    let items := [record 3, record 1, record 2]
    let page (index : Nat) := (q.page index 2).select items
    q.offset? = none ∧ q.limit? = none ∧ q.select items = .ok [record 1, record 2, record 3] ∧
      page 0 = .ok [record 1, record 2] ∧ page 1 = .ok [record 3] ∧ page (2 ^ 63) = .ok [] ∧
        (q.page 0 2).offset? = some 0 ∧ (q.page (2 ^ 63) 2).offset? = some lastCount := by
  intro record q items page
  have hselect : q.select items = .ok [record 1, record 2, record 3] := by cbv
  obtain ⟨hpages, -⟩ := select_page_eq_slice q rfl rfl items _ hselect (by decide) 2
  refine ⟨rfl, rfl, hselect, (hpages 0).1, (hpages 1).1, (hpages (2 ^ 63)).2 ?_, ?_, ?_⟩
  · decide
  · exact countOf?_clampInt64 _
  · exact countOf?_clampInt64 _

end

end Query

end RecordQuery
