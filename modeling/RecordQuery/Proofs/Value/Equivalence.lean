import RecordQuery.Proofs.Value.Symmetry

/-!
# Equality as an equivalence

Without binary64 numbers nothing stands in the way of transitivity. If besides no map has two equal
keys, each entry of a map has at most one equal entry in another map, so that looking for the
entries of one map in the other is as good as looking for them both ways: equality is an equivalence
relation, and says of each kind of value what one expects. So it is on the values of one memory, in
which an address has one record at each depth, and not between a record and the first attribute that
lies at its address.
-/

namespace RecordQuery

theorem length_le_of_partner {α β : Type} {R : α → β → Prop} {as : List α} {bs : List β}
    (hpartner : ∀ a ∈ as, ∃ b ∈ bs, R a b)
    (hapart : as.Pairwise fun a a' => ¬∃ b, R a b ∧ R a' b) : as.length ≤ bs.length := by
  cases as with
  | nil => exact Nat.zero_le _
  | cons a as =>
    obtain ⟨hfirst, hapart⟩ := List.pairwise_cons.mp hapart
    obtain ⟨⟨b, hb, hab⟩, hpartner⟩ := List.forall_mem_cons.mp hpartner
    by_contra hlength
    -- the items behind the first one use up all of the other list
    have hshort : bs.length ≤ as.length := by
      rw [List.length_cons] at hlength
      omega
    obtain ⟨a', ha', hab'⟩ := exists_partner hshort hpartner hapart b hb
    exact hfirst a' ha' ⟨b, hab, hab'⟩

theorem forall₂_trans_of_mem {α : Type} {R : α → α → Prop} {as bs cs : List α}
    (htrans : ∀ b ∈ bs, ∀ a c, R a b → R b c → R a c) (hab : List.Forall₂ R as bs)
    (hbc : List.Forall₂ R bs cs) : List.Forall₂ R as cs := by
  induction hab generalizing cs with
  | nil =>
    cases hbc
    exact .nil
  | cons hfirst _ ih =>
    obtain ⟨hhere, hthere⟩ := List.forall_mem_cons.mp htrans
    cases hbc with
    | cons hnext hbc => exact .cons (hhere _ _ hfirst hnext) (ih hthere hbc)

namespace Value

theorem eq_of_same_plain {a b : Value} (h : same a b = true)
    (hkind : a.kind ∈ [Kind.null, .bool, .timestamp, .string]) : a = b := by
  cases a <;> cases b <;> simp_all [same, kind]

/-! ## Transitivity -/

/-- No number in the value is a binary64 number, however deep. -/
inductive FloatFree : Value → Prop where
  | intro {v : Value} (parts : ∀ x ∈ v.parts, FloatFree x)
    (number : ∀ x, v ≠ number (.float x)) : FloatFree v

theorem FloatFree.trans {b : Value} (h : b.FloatFree) {a c : Value} (hab : same a b = true)
    (hbc : same b c = true) : same a c = true := by
  induction h generalizing a c with
  | @intro b _ hnumber ih =>
    cases a with
    | null | bool | timestamp | string =>
      rw [eq_of_same_plain hab (by simp [kind])]
      exact hbc
    | number m =>
      cases b with
      | number n =>
        cases c with
        | number k =>
          simp only [same, BEq.beq, decide_eq_true_eq] at hab hbc ⊢
          refine Number.eq_trans_of_not_clash (fun hclash => ?_) hab hbc
          cases n with
          | float x => exact hnumber x rfl
          | _ => cases hclash.middle
        | _ => simp [same] at hbc
      | _ => simp [same] at hab
    | list as =>
      obtain ⟨bs, rfl, hitems⟩ := same_list.mp hab
      obtain ⟨cs, rfl, hitems'⟩ := same_list.mp hbc
      refine same_list.mpr ⟨cs, rfl, forall₂_trans_of_mem (fun b hb _ _ => ?_) hitems hitems'⟩
      exact ih b hb
    | map as =>
      obtain ⟨bs, rfl, hlength, hab⟩ := same_map.mp hab
      obtain ⟨cs, rfl, hlength', hbc⟩ := same_map.mp hbc
      refine same_map.mpr ⟨cs, rfl, hlength.trans hlength', fun e he => ?_⟩
      obtain ⟨e', he', hkey, hvalue⟩ := hab e he
      obtain ⟨e'', he'', hkey', hvalue'⟩ := hbc e' he'
      refine ⟨e'', he'', ?_, ?_⟩
      · exact ih e'.1 (mem_parts_map.mpr ⟨e', he', .inl rfl⟩) hkey hkey'
      · exact ih e'.2 (mem_parts_map.mpr ⟨e', he', .inr rfl⟩) hvalue hvalue'
    | record s as =>
      obtain ⟨t, bs, rfl, hkey, hlength, hab⟩ := same_record.mp hab
      obtain ⟨u, cs, rfl, hkey', hlength', hbc⟩ := same_record.mp hbc
      refine same_record.mpr ⟨u, cs, rfl, hkey.trans hkey', hlength.trans hlength', fun i hi => ?_⟩
      have hi' : i < t.attributes.length := hlength ▸ hi
      exact ih _ (mem_parts_record.mpr ⟨i, hi', rfl⟩) (hab i hi) (hbc i hi')

/-! ## Symmetry -/

/-- Without binary64 numbers, and without equal keys in a map, however deep. -/
inductive Discrete : Value → Prop where
  | intro {v : Value} (parts : ∀ x ∈ v.parts, Discrete x) (number : ∀ x, v ≠ number (.float x))
    (keys : v.entries.Pairwise fun e e' => ¬same e.1 e'.1 = true) : Discrete v

theorem Discrete.floatFree {v : Value} (h : v.Discrete) : v.FloatFree := by
  induction h with
  | intro _ hnumber _ ih => exact ⟨ih, hnumber⟩

theorem Discrete.part {v x : Value} (h : v.Discrete) (hx : x ∈ v.parts) : x.Discrete := by
  cases h with
  | intro hparts => exact hparts x hx

theorem Discrete.entry {entries : List (Value × Value)} (h : (map entries).Discrete)
    {e : Value × Value} (he : e ∈ entries) : e.1.Discrete ∧ e.2.Discrete :=
  ⟨h.part (mem_parts_map.mpr ⟨e, he, .inl rfl⟩), h.part (mem_parts_map.mpr ⟨e, he, .inr rfl⟩)⟩

theorem Discrete.keys_apart {entries : List (Value × Value)} (h : (map entries).Discrete) :
    entries.Pairwise fun e e' => ¬same e.1 e'.1 = true := by
  cases h with
  | intro _ _ hkeys => exact hkeys

/-- An entry of `bs` is equal to at most one of `as`, if the keys of `as` turn equality around. -/
theorem apart_of_keys {as bs : List (Value × Value)}
    (has : as.Pairwise fun e e' => ¬same e.1 e'.1 = true) (hbs : (map bs).Discrete)
    (hsymm : ∀ e ∈ as, ∀ y, y.Discrete → same e.1 y = true → same y e.1 = true) :
    as.Pairwise fun e e' =>
      ¬∃ common, (common ∈ bs ∧ SameEntry e common) ∧ common ∈ bs ∧ SameEntry e' common := by
  refine has.imp_of_mem fun {e e'} _ he' hne => ?_
  rintro ⟨common, ⟨hcommon, hkey, -⟩, -, hkey', -⟩
  have hdiscrete : common.1.Discrete := (hbs.entry hcommon).1
  exact hne (hdiscrete.floatFree.trans hkey (hsymm e' he' common.1 hdiscrete hkey'))

theorem Discrete.symm {a b : Value} (ha : a.Discrete) (hb : b.Discrete) (hab : same a b = true) :
    same b a = true := by
  induction ha generalizing b with
  | @intro a _ _ hkeys ih =>
    cases a with
    | null | bool | timestamp | string =>
      rw [← eq_of_same_plain hab (by simp [kind])]
      exact same_self _
    | number m =>
      cases b with
      | number n =>
        simp only [same, BEq.beq, decide_eq_true_eq] at hab ⊢
        rw [Number.compare_swap, hab]
        rfl
      | _ => simp [same] at hab
    | list as =>
      obtain ⟨bs, rfl, hitems⟩ := same_list.mp hab
      refine same_list.mpr ⟨as, rfl, List.forall₂_iff_get.mpr ⟨hitems.length_eq.symm, ?_⟩⟩
      intro i hi hi'
      exact ih _ (List.get_mem as _) (hb.part (List.get_mem bs _)) (hitems.get hi' hi)
    | map as =>
      obtain ⟨bs, rfl, hlength, hincluded⟩ := same_map.mp hab
      have hsymm : ∀ e ∈ as, ∀ y, y.Discrete → same e.1 y = true → same y e.1 = true :=
        fun e he _ => ih e.1 (mem_parts_map.mpr ⟨e, he, .inl rfl⟩)
      have hpartner : ∀ e ∈ as, ∃ e' ∈ bs, e' ∈ bs ∧ SameEntry e e' := by
        intro e he
        obtain ⟨e', he', hsame⟩ := hincluded e he
        exact ⟨e', he', he', hsame⟩
      refine same_map.mpr ⟨as, rfl, hlength.symm, fun e' he' => ?_⟩
      obtain ⟨e, he, -, hkey, hvalue⟩ :=
        exists_partner hlength.ge hpartner (apart_of_keys hkeys hb hsymm) e' he'
      obtain ⟨hkeyDiscrete, hvalueDiscrete⟩ := hb.entry he'
      refine ⟨e, he, hsymm e he e'.1 hkeyDiscrete hkey, ?_⟩
      exact ih e.2 (mem_parts_map.mpr ⟨e, he, .inr rfl⟩) hvalueDiscrete hvalue
    | record s as =>
      obtain ⟨t, bs, rfl, hkey, hlength, hslots⟩ := same_record.mp hab
      refine same_record.mpr ⟨s, as, rfl, hkey.symm, hlength.symm, fun i hi => ?_⟩
      have hi' : i < s.attributes.length := hlength ▸ hi
      exact ih _ (mem_parts_record.mpr ⟨i, hi', rfl⟩) (hb.part (mem_parts_record.mpr ⟨i, hi, rfl⟩))
        (hslots i hi')

/-! ## Discrete values -/

theorem discrete_of_parts_nil {v : Value} (hparts : v.parts = [])
    (hnumber : ∀ x, v ≠ number (.float x)) : v.Discrete := by
  refine ⟨by simp [hparts], hnumber, ?_⟩
  cases v with
  | map entries =>
    have hnil : entries = [] := by
      apply List.map_eq_nil_iff.mp
      exact (List.append_eq_nil_iff.mp hparts).1
    rw [hnil]
    exact .nil
  | _ => exact .nil

theorem discrete_null : null.Discrete := discrete_of_parts_nil rfl (by simp)

theorem ofStringMap_discrete {m : Std.TreeMap String Value Ord.compare}
    (h : ∀ e ∈ m.toList, e.2.Discrete) : (ofStringMap m).Discrete := by
  refine ⟨fun x hx => ?_, by simp [ofStringMap],
    List.pairwise_map.mpr (m.distinct_keys_toList.imp ?_)⟩
  · obtain ⟨_, hentry, hpart⟩ := mem_parts_map.mp hx
    obtain ⟨e, he, rfl⟩ := List.mem_map.mp hentry
    rcases hpart with rfl | rfl
    · exact discrete_of_parts_nil rfl (by simp)
    · exact h e he
  · intro e e' hne hsame
    have heq : e.1 = e'.1 := by simpa [same] using hsame
    exact hne (heq ▸ Std.compare_self)

theorem same_number_iff {m n : Number} {i j : Int} (hm : m.toInt? = some i)
    (hn : n.toInt? = some j) : same (number m) (number n) = true ↔ i = j := by
  show (m.compare n == .eq) = true ↔ i = j
  rw [beq_iff_eq, Number.compare_of_ints hm hn, Int.compare_eq_eq]

theorem Discrete.length_le {as bs : List (Value × Value)} (has : (map as).Discrete)
    (hbs : (map bs).Discrete) (h : ∀ e ∈ as, ∃ e' ∈ bs, SameEntry e e') :
    as.length ≤ bs.length := by
  have hpartner : ∀ e ∈ as, ∃ e' ∈ bs, e' ∈ bs ∧ SameEntry e e' := by
    intro e he
    obtain ⟨e', he', hsame⟩ := h e he
    exact ⟨e', he', he', hsame⟩
  apply length_le_of_partner hpartner
  exact apart_of_keys has.keys_apart hbs fun e he _ => (has.entry he).1.symm

theorem Discrete.same_map_iff {as bs : List (Value × Value)} (has : (map as).Discrete)
    (hbs : (map bs).Discrete) : same (map as) (map bs) = true ↔
      (∀ e ∈ as, ∃ e' ∈ bs, SameEntry e e') ∧ ∀ e' ∈ bs, ∃ e ∈ as, SameEntry e' e := by
  have hincluded {as bs : List (Value × Value)} (h : same (map as) (map bs) = true) :
      ∀ e ∈ as, ∃ e' ∈ bs, SameEntry e e' := by
    obtain ⟨_, heq, -, hincluded⟩ := same_map.mp h
    cases heq
    exact hincluded
  constructor
  · intro h
    exact ⟨hincluded h, hincluded (has.symm hbs h)⟩
  · rintro ⟨hforth, hback⟩
    have hlength : as.length = bs.length :=
      Nat.le_antisymm (has.length_le hbs hforth) (hbs.length_le has hback)
    exact same_map.mpr ⟨bs, rfl, hlength, hforth⟩

theorem same_record_iff {s t : RecordType} {as bs : List Value}
    (htype : s.key = t.key → s.attributes = t.attributes) :
    same (record s as) (record t bs) = true ↔
      s.key = t.key ∧ ∀ i < s.attributes.length, same (as.getD i null) (bs.getD i null) = true := by
  rw [same_record]
  constructor
  · rintro ⟨_, _, heq, hkey, -, hslots⟩
    cases heq
    exact ⟨hkey, hslots⟩
  · rintro ⟨hkey, hslots⟩
    exact ⟨t, bs, rfl, hkey, congrArg List.length (htype hkey), hslots⟩

end Value

namespace Placed

variable {memory : Nat → Nat → Record} {depth : Nat}

theorem LiesIn.entry {entries : List (Placed × Placed)} (h : (map entries).LiesIn memory depth)
    {e : Placed × Placed} (he : e ∈ entries) :
    e.1.LiesIn memory (depth + 1) ∧ e.2.LiesIn memory (depth + 1) := by
  obtain ⟨hkey, hvalue⟩ := records_subset_of_mem he
  exact ⟨fun p hp => h p (hkey hp), fun p hp => h p (hvalue hp)⟩

theorem records_getD_subset (depth : Nat) (values : List Placed) (i : Nat) :
    (values.getD i null).records depth ⊆ itemRecords depth values := by
  induction values generalizing i with
  | nil => simp [records]
  | cons a rest ih =>
    cases i with
    | zero => simp [itemRecords]
    | succ i => exact List.subset_append_of_subset_right _ (ih i)

theorem LiesIn.slot {address : Nat} {type : RecordType} {values : List Placed}
    (h : (record address type values).LiesIn memory depth) (i : Nat) :
    (values.getD i null).LiesIn memory (depth + 1) :=
  fun p hp => h p (List.mem_cons_of_mem _ (records_getD_subset (depth + 1) values i hp))

theorem contents_getD (values : List Placed) (i : Nat) :
    (values.getD i null).contents = (itemContents values).getD i .null := by
  rw [itemContents_eq_map]
  exact (List.getD_map values null contents).symm

theorem same_list_iff {as bs : List Placed} : same (list as) (list bs) = true ↔
    as.length = bs.length ∧
      ∀ i (hi : i < as.length) (hi' : i < bs.length), same as[i] bs[i] = true := by
  show sameItems as bs = true ↔ _
  rw [sameItems_iff, List.forall₂_iff_get]
  rfl

theorem same_map_iff {as bs : List (Placed × Placed)} (ha : (map as).LiesIn memory depth)
    (hb : (map bs).LiesIn memory depth) (has : (map as).contents.Discrete)
    (hbs : (map bs).contents.Discrete) : same (map as) (map bs) = true ↔
      (∀ e ∈ as, ∃ e' ∈ bs, same e.1 e'.1 = true ∧ same e.2 e'.2 = true) ∧
        ∀ e' ∈ bs, ∃ e ∈ as, same e'.1 e.1 = true ∧ same e'.2 e.2 = true := by
  have hentry {e e' : Placed × Placed}
      (he : e.1.LiesIn memory (depth + 1) ∧ e.2.LiesIn memory (depth + 1))
      (he' : e'.1.LiesIn memory (depth + 1) ∧ e'.2.LiesIn memory (depth + 1)) :
      Value.SameEntry (e.1.contents, e.2.contents) (e'.1.contents, e'.2.contents) ↔
        same e.1 e'.1 = true ∧ same e.2 e'.2 = true := by
    rw [Value.SameEntry, he.1.same_eq he'.1, he.2.same_eq he'.2]
  rw [ha.same_eq hb]
  simp only [contents, entryContents_eq_map] at has hbs ⊢
  rw [has.same_map_iff hbs, List.forall_mem_map, List.forall_mem_map]
  simp only [List.mem_map, exists_exists_and_eq_and]
  refine and_congr (forall₂_congr fun e he => ?_) (forall₂_congr fun e' he' => ?_)
  · exact exists_congr fun e' => and_congr_right fun he' => hentry (ha.entry he) (hb.entry he')
  · exact exists_congr fun e => and_congr_right fun he => hentry (hb.entry he') (ha.entry he)

theorem same_record_iff {p q : Nat} {s t : RecordType} {as bs : List Placed}
    (ha : (record p s as).LiesIn memory depth) (hb : (record q t bs).LiesIn memory depth)
    (htype : s.key = t.key → s.attributes = t.attributes) :
    same (record p s as) (record q t bs) = true ↔
      s.key = t.key ∧ ∀ i < s.attributes.length,
        same (as.getD i null) (bs.getD i null) = true := by
  rw [ha.same_eq hb, contents, contents, Value.same_record_iff htype]
  simp only [← contents_getD, (ha.slot _).same_eq (hb.slot _)]

/-- Equality is an equivalence relation on the values of one memory that have no binary64 numbers
and no equal keys in a map, and says of each kind of value what one expects. -/
theorem same_equivalence (memory : Nat → Nat → Record) :
    Equivalence (fun a b : {a : Placed // a.LiesIn memory 0 ∧ a.contents.Discrete} =>
      same a.1 b.1 = true) ∧
    (∀ (m n : Number) (i j : Int), m.toInt? = some i → n.toInt? = some j →
      (same (number m) (number n) = true ↔ i = j)) ∧
    (∀ as bs, same (list as) (list bs) = true ↔
      as.length = bs.length ∧
        ∀ i (hi : i < as.length) (hi' : i < bs.length), same as[i] bs[i] = true) ∧
    (∀ as bs, (map as).LiesIn memory 0 → (map bs).LiesIn memory 0 → (map as).contents.Discrete →
      (map bs).contents.Discrete → (same (map as) (map bs) = true ↔
        (∀ e ∈ as, ∃ e' ∈ bs, same e.1 e'.1 = true ∧ same e.2 e'.2 = true) ∧
          ∀ e' ∈ bs, ∃ e ∈ as, same e'.1 e.1 = true ∧ same e'.2 e.2 = true)) ∧
    (∀ p q s t as bs, (record p s as).LiesIn memory 0 → (record q t bs).LiesIn memory 0 →
      (s.key = t.key → s.attributes = t.attributes) →
        (same (record p s as) (record q t bs) = true ↔
          s.key = t.key ∧ ∀ i < s.attributes.length,
            same (as.getD i null) (bs.getD i null) = true)) ∧
    ∀ m : Std.TreeMap String Value, (∀ e ∈ m.toList, e.2.Discrete) →
      (Value.ofStringMap m).Discrete := by
  refine ⟨⟨fun a => same_refl a.1, fun {a b} hab => ?_, fun {a b c} hab hbc => ?_⟩,
    fun m n i j => Value.same_number_iff, fun _ _ => same_list_iff, fun _ _ => same_map_iff,
    fun _ _ _ _ _ _ => same_record_iff, fun m => Value.ofStringMap_discrete⟩
  · rw [a.2.1.same_eq b.2.1] at hab
    rw [b.2.1.same_eq a.2.1]
    exact a.2.2.symm b.2.2 hab
  · rw [a.2.1.same_eq b.2.1] at hab
    rw [b.2.1.same_eq c.2.1] at hbc
    rw [a.2.1.same_eq c.2.1]
    exact b.2.2.floatFree.trans hab hbc

/-- Maps in different orders, with a record at the address of its first attribute and an integer in
different representations. -/
theorem same_equivalence_nested :
    let inner : RecordType := ⟨1, "U", ["n"]⟩
    let type : RecordType := ⟨0, "T", ["u", "missing"]⟩
    let key := list [string "k"]
    let first := record 1 type [record 1 inner [number (.signed 7)]]
    let second := record 2 type [record 2 inner [number (.unsigned 7)], null]
    let a := map [(key, first), (null, bool true)]
    let b := map [(null, bool true), (key, second)]
    let memory (depth address : Nat) : Record :=
      match depth, address with
      | 1, 1 => ⟨type, [.record inner [.number (.signed 7)]]⟩
      | 1, _ => ⟨type, [.record inner [.number (.unsigned 7)], .null]⟩
      | _, 1 => ⟨inner, [.number (.signed 7)]⟩
      | _, _ => ⟨inner, [.number (.unsigned 7)]⟩
    (a.LiesIn memory 0 ∧ a.contents.Discrete) ∧ (b.LiesIn memory 0 ∧ b.contents.Discrete) ∧
      same a b = true ∧ same b a = true := by
  intro inner type key first second a b memory
  have hplain (v : Value) (hparts : v.parts = []) (hnumber : v.toNumber? = none) : v.Discrete :=
    Value.discrete_of_parts_nil hparts fun x hx => by simp [hx, Value.toNumber?] at hnumber
  have hkey : key.contents.Discrete := by
    refine ⟨?_, by simp [key, contents], .nil⟩
    simpa [key, Value.parts, contents, itemContents] using hplain (.string "k") rfl rfl
  have hinner (n : Number) (hn : ∀ x, n ≠ .float x) :
      (Value.record inner [.number n]).Discrete := by
    refine ⟨?_, by simp, .nil⟩
    have hnumber : (Value.number n).Discrete :=
      Value.discrete_of_parts_nil rfl (by simpa using hn)
    simpa [inner, Value.parts] using hnumber
  have hrecord (v : Value) (values : List Value) (hv : v.Discrete)
      (hvalues : (Value.record type values).parts = [v, .null]) :
      (Value.record type values).Discrete := by
    refine ⟨?_, by simp, .nil⟩
    rw [hvalues]
    simpa using ⟨hv, Value.discrete_null⟩
  have ha : a.contents.Discrete := by
    refine ⟨?_, by simp [a, contents], List.pairwise_pair.mpr (by decide)⟩
    have hfirst : first.contents.Discrete := hrecord _ _ (hinner (.signed 7) (by simp)) rfl
    simpa [a, Value.parts, contents, entryContents] using
      ⟨hkey, Value.discrete_null, hfirst, hplain (.bool true) rfl rfl⟩
  have hb : b.contents.Discrete := by
    refine ⟨?_, by simp [b, contents], List.pairwise_pair.mpr (by decide)⟩
    have hsecond : second.contents.Discrete := hrecord _ _ (hinner (.unsigned 7) (by simp)) rfl
    simpa [b, Value.parts, contents, entryContents] using
      ⟨Value.discrete_null, hkey, hplain (.bool true) rfl rfl, hsecond⟩
  have hain : a.LiesIn memory 0 := by
    simp [LiesIn, a, key, first, memory, records, itemRecords, entryRecords, itemContents, contents]
  have hbin : b.LiesIn memory 0 := by
    simp [LiesIn, b, key, second, memory, records, itemRecords, entryRecords, itemContents,
      contents]
  have hab : same a b = true := by decide
  refine ⟨⟨hain, ha⟩, ⟨hbin, hb⟩, hab, ?_⟩
  exact (same_equivalence memory).1.symm (x := ⟨a, hain, ha⟩) (y := ⟨b, hbin, hb⟩) hab

/-- A record at another address equals one that lies at the address of its first attribute, and does
not equal that attribute. -/
theorem same_not_transitive :
    let inner (address : Nat) := record address ⟨1, "U", ["v"]⟩ [null]
    let outer (address : Nat) := record address ⟨0, "T", ["u"]⟩ [inner address]
    (∀ address, (inner address).contents.Discrete ∧ (outer address).contents.Discrete) ∧
      same (outer 2) (outer 1) = true ∧ same (outer 1) (inner 1) = true ∧
        same (outer 2) (inner 1) = false := by
  intro inner outer
  refine ⟨fun address => ?_, by decide, by decide, by decide⟩
  have hinner : (inner address).contents.Discrete := by
    refine ⟨?_, by simp [inner, contents], .nil⟩
    simpa [inner, Value.parts, contents, itemContents] using Value.discrete_null
  refine ⟨hinner, ⟨?_, by simp [outer, contents], .nil⟩⟩
  simpa [outer, Value.parts, contents, itemContents] using hinner

end Placed

end RecordQuery
