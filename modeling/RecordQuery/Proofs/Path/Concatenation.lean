import RecordQuery.Proofs.Path.Memory

/-!
# Paths put together

Two dotted texts with a dot between them read as a path exactly if both do. Resolving that path
comes to resolving the first one, and then the second one from the record that it leads to. Null
and errors on the first part of the way end it, and a value that is no record has nothing that the
second path could name.
-/

namespace RecordQuery

theorem splitDots_append_dot (s t : List Char) :
    splitDots (s ++ '.' :: t) = splitDots s ++ splitDots t := by
  induction s with
  | nil => rfl
  | cons c s ih =>
    rw [List.cons_append, splitDots, splitDots, ih]
    split
    · rfl
    · cases h : splitDots s with
      | nil => exact absurd h (splitDots_ne_nil s)
      | cons piece more => rfl

namespace PropertyPath

theorem parse_eq_ok_iff {dotted : String} {p : PropertyPath} :
    parse dotted = .ok p ↔ p.dotted = dotted := by
  constructor
  · unfold parse
    split
    · rintro ⟨⟩
      rfl
    · rintro ⟨⟩
  · rintro rfl
    unfold parse
    rw [dif_pos p.segments_visible]

theorem exists_parse_iff {dotted : String} :
    (∃ p, parse dotted = .ok p) ↔ (splitDots dotted.toList).any Unicode.isBlank = false := by
  constructor
  · rintro ⟨p, h⟩
    exact parse_eq_ok_iff.mp h ▸ p.segments_visible
  · exact fun h => ⟨⟨dotted, h⟩, parse_eq_ok_iff.mpr rfl⟩

theorem splitDots_concat (p q : String) :
    splitDots (p ++ "." ++ q).toList = splitDots p.toList ++ splitDots q.toList := by
  rw [← splitDots_append_dot]
  simp

theorem segments_of_parse {dotted : String} {p : PropertyPath} (h : parse dotted = .ok p) :
    p.segments = (splitDots dotted.toList).map String.ofList := by
  rw [segments, parse_eq_ok_iff.mp h]

theorem exists_segments_eq_cons (p : PropertyPath) : ∃ next rest, p.segments = next :: rest := by
  refine List.exists_cons_of_ne_nil ?_
  simpa [segments] using splitDots_ne_nil p.dotted.toList

/-! ## Following segments -/

/-- Goes on by the segments `next :: rest` from what the way up to them has found. -/
def followOn (next : String) (rest : List String) :
    Option Value → Except QueryError (Option Value)
  | none => .ok none
  | some v =>
    match v.toRecord? with
    | some inner => follow (next :: rest) inner
    | none => .error (.notARecord next v.kind)

theorem follow_append {names : List String} (hnames : names ≠ []) (next : String)
    (rest : List String) (r : Record) :
    follow (names ++ next :: rest) r = follow names r >>= followOn next rest := by
  induction names generalizing r with
  | nil => exact absurd rfl hnames
  | cons name names ih =>
    rw [List.cons_append, follow, follow]
    cases step name r with
    | error e => rfl
    | ok v =>
      simp only [bind, Except.bind]
      cases v.isNull with
      | true => rfl
      | false =>
        cases names with
        | nil => rfl
        | cons next' names =>
          cases hinner : v.toRecord? with
          | none => rfl
          | some inner =>
            have hinner' := ih (List.cons_ne_nil next' names) inner
            exact hinner'

/-- What path objects give that have met no record yet, whatever the attribute lists of the records
they meet. -/
theorem follow_fresh (names : List String) (r : Record) :
    (CachedPath.follow (names.map fun name => ⟨name, []⟩) r).1 = follow names r := by
  induction names generalizing r with
  | nil => rfl
  | cons name names ih =>
    have hslot : ((⟨name, []⟩ : CachedSegment).slot r).1 = plainSlot name r := by
      simp only [CachedSegment.slot, List.lookup_nil, plainSlot]
      cases r.type.slotOf? name <;> rfl
    rw [List.map_cons, CachedPath.follow, follow, step_eq, ← hslot]
    generalize (⟨name, []⟩ : CachedSegment).slot r = found
    obtain ⟨_ | slot, s⟩ := found
    · rfl
    simp only [Except.map, bind, Except.bind]
    cases (r.valueAt slot).isNull with
    | true => rfl
    | false =>
      cases names with
      | nil => rfl
      | cons next names =>
        cases (r.valueAt slot).toRecord? with
        | none => rfl
        | some inner => exact ih inner

theorem resolve_fresh (p : PropertyPath) (r : Record) :
    ((CachedPath.ofPath p).resolve r).1 = p.resolve r := follow_fresh p.segments r

/-- Two texts with a dot between them are a path exactly if both are, and it leads where the second
one leads from the record that the first one leads to. -/
theorem resolve_concatenation (p q : String) :
    ((∃ pq, parse (p ++ "." ++ q) = .ok pq) ↔
      (∃ a, parse p = .ok a) ∧ ∃ b, parse q = .ok b) ∧
    (∀ pq a b, parse (p ++ "." ++ q) = .ok pq → parse p = .ok a → parse q = .ok b →
      pq.segments = a.segments ++ b.segments ∧
      ∀ r : Record,
        (∀ e, a.resolve r = .error e → pq.resolve r = .error e) ∧
        (a.resolve r = .ok none → pq.resolve r = .ok none) ∧
        (∀ inner : Record, a.resolve r = .ok (some inner.toValue) →
          pq.resolve r = b.resolve inner) ∧
        ∀ v, a.resolve r = .ok (some v) → v.kind ≠ .record →
          ∃ next, b.segments.head? = some next ∧
            pq.resolve r = .error (.notARecord next v.kind)) ∧
    (∀ (a : PropertyPath) (r : Record), ((CachedPath.ofPath a).resolve r).1 = a.resolve r) ∧
    ∀ (c : Catalog) (m : SlotMemory) (a : SharedPath) (r : Record), m.Sound c → r.Conforms c →
      ((a.resolve r).run.run m).1 = a.path.resolve r := by
  refine ⟨?_, fun pq a b hpq ha hb => ?_, resolve_fresh,
    fun c m a r hm hr => (a.resolve_spec hm hr).1⟩
  · rw [exists_parse_iff, exists_parse_iff, exists_parse_iff, splitDots_concat, List.any_append,
      Bool.or_eq_false_iff]
  · have hsegments : pq.segments = a.segments ++ b.segments := by
      rw [segments_of_parse hpq, segments_of_parse ha, segments_of_parse hb, splitDots_concat,
        List.map_append]
    refine ⟨hsegments, fun r => ?_⟩
    obtain ⟨first, firsts, hfirst⟩ := a.exists_segments_eq_cons
    obtain ⟨next, rest, hnext⟩ := b.exists_segments_eq_cons
    have hne : a.segments ≠ [] := hfirst ▸ List.cons_ne_nil first firsts
    have hresolve : pq.resolve r = a.resolve r >>= followOn next rest := by
      rw [resolve, hsegments, hnext, follow_append hne, resolve]
    have hon (inner : Record) : followOn next rest (some inner.toValue) = b.resolve inner := by
      rw [resolve, hnext]
      rfl
    rw [hresolve]
    refine ⟨fun e h => ?_, fun h => ?_, fun inner h => ?_, fun v h hv => ?_⟩
    · rw [h]
      rfl
    · rw [h]
      rfl
    · rw [h]
      exact hon inner
    · refine ⟨next, by rw [hnext, List.head?_cons], ?_⟩
      rw [h]
      cases v with
      | record type values => exact absurd rfl hv
      | _ => rfl

end PropertyPath

end RecordQuery
