import Mathlib.Data.List.Forall2
import RecordQuery.Proofs.Number.Order
import RecordQuery.Value.Equality

/-!
# Equality of values, part by part

What equality says of each kind of value, in terms of the equality of their parts. Two values that
are equal have equal parts: to each part of the first there is an equal one of the second.
-/

namespace RecordQuery

theorem forall₂_imp_of_mem {α β : Type} {R S : α → β → Prop} {as : List α} {bs : List β}
    (h : ∀ a ∈ as, ∀ b, R a b → S a b) (hR : List.Forall₂ R as bs) : List.Forall₂ S as bs := by
  have hmem : ∀ a ∈ as, a ∈ as := fun _ ha => ha
  exact ((List.forall₂_and_left _ _).mpr ⟨hmem, hR⟩).imp fun a b hab => h a hab.1 b hab.2

theorem all_take_iff_getD {α : Type} {p : α → Bool} {d : α} (hd : p d = true) {n : Nat}
    {as : List α} : (as.take n).all p = true ↔ ∀ i < n, p (as.getD i d) = true := by
  induction n generalizing as with
  | zero => simp
  | succ n ih =>
    rw [Nat.forall_lt_succ_left]
    cases as with
    | nil => simp [hd]
    | cons a as => simp [ih]

namespace Value

/-! ## Equal values of each kind -/

def SameEntry (e e' : Value × Value) : Prop := same e.1 e'.1 = true ∧ same e.2 e'.2 = true

theorem sameItems_iff {as bs : List Value} :
    sameItems as bs = true ↔ List.Forall₂ (fun a b => same a b = true) as bs := by
  induction as generalizing bs with
  | nil => cases bs <;> simp [sameItems]
  | cons a as ih => cases bs <;> simp [sameItems, ih]

theorem includedIn_iff {as bs : List (Value × Value)} :
    includedIn bs as = true ↔ ∀ e ∈ as, ∃ e' ∈ bs, SameEntry e e' := by
  induction as with
  | nil => simp [includedIn]
  | cons e as ih => simp [includedIn, ih, SameEntry]

theorem same_null {v : Value} : same null v = true ↔ v.isNull = true := by
  cases v <;> exact Iff.rfl

theorem sameSlots_iff {slots : Nat} {as bs : List Value} :
    sameSlots slots as bs = true ↔
      ∀ i < slots, same (as.getD i null) (bs.getD i null) = true := by
  induction as generalizing slots bs with
  | nil =>
    cases slots with
    | zero => simp [sameSlots]
    | succ slots =>
      rw [sameSlots, all_take_iff_getD (d := null) rfl]
      exact forall₂_congr fun _ _ => same_null.symm
  | cons a as ih =>
    cases slots with
    | zero => simp [sameSlots]
    | succ slots =>
      rw [sameSlots, Bool.and_eq_true, ih, Nat.forall_lt_succ_left]
      cases bs <;> rfl

theorem same_list {as : List Value} {b : Value} :
    same (list as) b = true ↔
      ∃ bs, b = list bs ∧ List.Forall₂ (fun a b => same a b = true) as bs := by
  constructor
  · intro h
    cases b with
    | list bs => exact ⟨bs, rfl, sameItems_iff.mp h⟩
    | _ => cases h
  · rintro ⟨bs, rfl, hitems⟩
    exact sameItems_iff.mpr hitems

theorem same_map {as : List (Value × Value)} {b : Value} :
    same (map as) b = true ↔
      ∃ bs, b = map bs ∧ as.length = bs.length ∧ ∀ e ∈ as, ∃ e' ∈ bs, SameEntry e e' := by
  have hmap (bs : List (Value × Value)) : same (map as) (map bs) = true ↔
      as.length = bs.length ∧ ∀ e ∈ as, ∃ e' ∈ bs, SameEntry e e' := by
    show (as.length == bs.length && includedIn bs as) = true ↔ _
    rw [Bool.and_eq_true, beq_iff_eq, includedIn_iff]
  constructor
  · intro h
    cases b with
    | map bs => exact ⟨bs, rfl, (hmap bs).mp h⟩
    | _ => cases h
  · rintro ⟨bs, rfl, hentries⟩
    exact (hmap bs).mpr hentries

theorem same_record {s : RecordType} {as : List Value} {b : Value} :
    same (record s as) b = true ↔
      ∃ t bs, b = record t bs ∧ s.key = t.key ∧ s.attributes.length = t.attributes.length ∧
        ∀ i < s.attributes.length, same (as.getD i null) (bs.getD i null) = true := by
  have hrecord (t : RecordType) (bs : List Value) : same (record s as) (record t bs) = true ↔
      s.key = t.key ∧ s.attributes.length = t.attributes.length ∧
        ∀ i < s.attributes.length, same (as.getD i null) (bs.getD i null) = true := by
    show (s.key == t.key && s.attributes.length == t.attributes.length &&
      sameSlots s.attributes.length as bs) = true ↔ _
    rw [Bool.and_eq_true, Bool.and_eq_true, beq_iff_eq, beq_iff_eq, sameSlots_iff, and_assoc]
  constructor
  · intro h
    cases b with
    | record t bs => exact ⟨t, bs, rfl, (hrecord t bs).mp h⟩
    | _ => cases h
  · rintro ⟨t, bs, rfl, hslots⟩
    exact (hrecord t bs).mpr hslots

/-! ## Parts -/

/-- The values that equality looks at inside a value. -/
def parts : Value → List Value
  | list items => items
  | map entries => entries.map Prod.fst ++ entries.map Prod.snd
  | record type values => (List.range type.attributes.length).map fun i => values.getD i null
  | _ => []

/-- What holds of a value as soon as it holds of its parts holds of all values. -/
theorem induction_parts {P : Value → Prop} (h : ∀ v, (∀ x ∈ v.parts, P x) → P v) (v : Value) :
    P v := by
  have hnull : P null := h null (by simp [parts])
  refine @Value.rec P (fun items => ∀ x ∈ items, P x) (fun entries => ∀ e ∈ entries, P e.1 ∧ P e.2)
    (fun e => P e.1 ∧ P e.2) hnull ?bool ?number ?timestamp ?string ?list ?map ?record
    (by simp) ?cons (by simp) ?entry (fun _ _ hk hv => ⟨hk, hv⟩) v
  case bool | number | timestamp | string =>
    intro x
    exact h _ (by simp [parts])
  case list => exact fun items hitems => h (list items) hitems
  case map =>
    intro entries hentries
    refine h (map entries) fun x hx => ?_
    rcases List.mem_append.mp hx with hx | hx
    · obtain ⟨e, he, rfl⟩ := List.mem_map.mp hx
      exact (hentries e he).1
    · obtain ⟨e, he, rfl⟩ := List.mem_map.mp hx
      exact (hentries e he).2
  case record =>
    intro type values hvalues
    refine h (record type values) fun x hx => ?_
    obtain ⟨i, -, rfl⟩ := List.mem_map.mp hx
    rw [List.getD_eq_getElem?_getD]
    cases hi : values[i]? with
    | none => exact hnull
    | some v => exact hvalues v (List.mem_of_getElem? hi)
  case cons => exact fun v rest hv hrest => List.forall_mem_cons.mpr ⟨hv, hrest⟩
  case entry => exact fun e rest he hrest => List.forall_mem_cons.mpr ⟨he, hrest⟩

theorem mem_parts_map {entries : List (Value × Value)} {x : Value} :
    x ∈ (map entries).parts ↔ ∃ e ∈ entries, x = e.1 ∨ x = e.2 := by
  simp only [parts, List.mem_append, List.mem_map]
  constructor
  · rintro (⟨e, he, rfl⟩ | ⟨e, he, rfl⟩)
    · exact ⟨e, he, .inl rfl⟩
    · exact ⟨e, he, .inr rfl⟩
  · rintro ⟨e, he, rfl | rfl⟩
    · exact .inl ⟨e, he, rfl⟩
    · exact .inr ⟨e, he, rfl⟩

theorem mem_parts_record {type : RecordType} {values : List Value} {x : Value} :
    x ∈ (record type values).parts ↔
      ∃ i < type.attributes.length, values.getD i null = x := by
  simp [parts]

theorem same_self (v : Value) : same v v = true := by
  induction v using induction_parts with
  | h v ih =>
    cases v with
    | null => rfl
    | bool b => exact beq_self_eq_true b
    | number n =>
      show (n.compare n == .eq) = true
      rw [Number.compare_self]
      rfl
    | timestamp t => exact beq_self_eq_true t
    | string s => exact beq_self_eq_true s
    | list items => exact same_list.mpr ⟨items, rfl, List.forall₂_same.mpr ih⟩
    | map entries =>
      refine same_map.mpr ⟨entries, rfl, rfl, fun e he => ⟨e, he, ?_, ?_⟩⟩
      · exact ih _ (mem_parts_map.mpr ⟨e, he, .inl rfl⟩)
      · exact ih _ (mem_parts_map.mpr ⟨e, he, .inr rfl⟩)
    | record type values =>
      refine same_record.mpr ⟨type, values, rfl, rfl, rfl, fun i hi => ?_⟩
      exact ih _ (mem_parts_record.mpr ⟨i, hi, rfl⟩)

theorem SameEntry.refl (e : Value × Value) : SameEntry e e := ⟨same_self e.1, same_self e.2⟩

/-- To each part of a value an equal value has an equal part. -/
theorem exists_part_of_same {a b x : Value} (h : same a b = true) (hx : x ∈ a.parts) :
    ∃ y ∈ b.parts, same x y = true := by
  cases a with
  | list as =>
    obtain ⟨bs, rfl, hitems⟩ := same_list.mp h
    obtain ⟨i, hi, rfl⟩ := List.getElem_of_mem hx
    have hi' : i < bs.length := hitems.length_eq ▸ hi
    exact ⟨bs.get ⟨i, hi'⟩, List.get_mem bs _, hitems.get hi hi'⟩
  | map as =>
    obtain ⟨bs, rfl, -, hentries⟩ := same_map.mp h
    obtain ⟨e, he, hx⟩ := mem_parts_map.mp hx
    obtain ⟨e', he', hkey, hvalue⟩ := hentries e he
    rcases hx with rfl | rfl
    · exact ⟨e'.1, mem_parts_map.mpr ⟨e', he', .inl rfl⟩, hkey⟩
    · exact ⟨e'.2, mem_parts_map.mpr ⟨e', he', .inr rfl⟩, hvalue⟩
  | record s as =>
    obtain ⟨t, bs, rfl, -, hlength, hslots⟩ := same_record.mp h
    obtain ⟨i, hi, rfl⟩ := mem_parts_record.mp hx
    exact ⟨bs.getD i null, mem_parts_record.mpr ⟨i, hlength ▸ hi, rfl⟩, hslots i hi⟩
  | _ => simp [parts] at hx

end Value

end RecordQuery
