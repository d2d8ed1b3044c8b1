import RecordQuery.Proofs.Value.Equality
import RecordQuery.Value.Placed

/-!
# Equality and addresses

Every value equals itself, by the address of a record in it and by its attributes alike. Equality
compares records at one depth of the two values. So where an address has one record at each depth,
to compare addresses first makes no difference, and the first attribute of a record may lie where
the record does. Between the record and that attribute it makes one.
-/

namespace RecordQuery.Placed

/-! ## Equal items, entries and slots -/

theorem sameItems_iff {as bs : List Placed} :
    sameItems as bs = true ↔ List.Forall₂ (fun a b => same a b = true) as bs := by
  induction as generalizing bs with
  | nil => cases bs <;> simp [sameItems]
  | cons a as ih => cases bs <;> simp [sameItems, ih]

theorem includedIn_iff {as bs : List (Placed × Placed)} :
    includedIn bs as = true ↔
      ∀ e ∈ as, ∃ e' ∈ bs, same e.1 e'.1 = true ∧ same e.2 e'.2 = true := by
  induction as with
  | nil => simp [includedIn]
  | cons e as ih => simp [includedIn, ih]

theorem same_null {a : Placed} : same null a = true ↔ a.isNull = true := by
  cases a <;> simp [same, isNull, contents, Value.isNull, Value.kind]

theorem sameSlots_iff {slots : Nat} {as bs : List Placed} :
    sameSlots slots as bs = true ↔
      ∀ i < slots, same (as.getD i null) (bs.getD i null) = true := by
  induction as generalizing slots bs with
  | nil =>
    cases slots with
    | zero => simp [sameSlots]
    | succ slots =>
      rw [sameSlots, all_take_iff_getD (d := null) rfl]
      exact forall₂_congr fun _ _ => same_null.symm
  | cons a as ih =>
    cases slots with
    | zero => simp [sameSlots]
    | succ slots =>
      rw [sameSlots, Bool.and_eq_true, ih, Nat.forall_lt_succ_left]
      cases bs <;> rfl

/-! ## A value and itself -/

mutual

theorem same_refl (a : Placed) : a.same a = true := by
  cases a with
  | null => rfl
  | bool b => simp [same]
  | number n => simp [same, BEq.beq, Number.compare_self]
  | timestamp t => simp [same]
  | string s => simp [same]
  | list items => exact sameItems_refl items
  | map entries =>
    rw [same, beq_self_eq_true, Bool.true_and]
    exact includedIn_refl entries entries fun _ he => he
  | record address type values => simp [same]
termination_by structural a

theorem sameItems_refl (items : List Placed) : sameItems items items = true := by
  cases items with
  | nil => rfl
  | cons a rest => rw [sameItems, same_refl a, sameItems_refl rest, Bool.and_self]
termination_by structural items

theorem includedIn_refl (all entries : List (Placed × Placed)) (h : ∀ e ∈ entries, e ∈ all) :
    includedIn all entries = true := by
  cases entries with
  | nil => rfl
  | cons e rest =>
    obtain ⟨k, a⟩ := e
    obtain ⟨hhere, hrest⟩ := List.forall_mem_cons.mp h
    rw [includedIn, Bool.and_eq_true, List.any_eq_true]
    refine ⟨⟨(k, a), hhere, ?_⟩, includedIn_refl all rest hrest⟩
    rw [same_refl k, same_refl a, Bool.and_self]
termination_by structural entries

end

theorem sameSlots_refl (slots : Nat) (values : List Placed) :
    sameSlots slots values values = true := sameSlots_iff.mpr fun _ _ => same_refl _

/-! ## The same without addresses -/

/-- Two records found at one depth and address are equal, attribute by attribute. -/
def Consistent (ps qs : List ((Nat × Nat) × Record)) : Prop :=
  ∀ p ∈ ps, ∀ q ∈ qs, p.1 = q.1 → p.2.toValue.same q.2.toValue = true

theorem Consistent.mono {ps ps' qs qs' : List ((Nat × Nat) × Record)} (h : Consistent ps qs)
    (hp : ps' ⊆ ps) (hq : qs' ⊆ qs) : Consistent ps' qs' :=
  fun p hp' q hq' => h p (hp hp') q (hq hq')

theorem itemContents_eq_map (items : List Placed) : itemContents items = items.map contents := by
  induction items with
  | nil => rfl
  | cons a rest ih => rw [itemContents, ih, List.map_cons]

theorem entryContents_eq_map (entries : List (Placed × Placed)) :
    entryContents entries = entries.map fun e => (e.1.contents, e.2.contents) := by
  induction entries with
  | nil => rfl
  | cons e rest ih => rw [entryContents, ih, List.map_cons]

theorem itemContents_headD (items : List Placed) :
    (itemContents items).headD .null = (items.headD null).contents := by
  cases items <;> rfl

theorem itemContents_tail (items : List Placed) :
    (itemContents items).tail = itemContents items.tail := by
  cases items <;> rfl

theorem records_headD_subset (depth : Nat) (items : List Placed) :
    (items.headD null).records depth ⊆ itemRecords depth items := by
  cases items <;> simp [records, itemRecords]

theorem itemRecords_tail_subset (depth : Nat) (items : List Placed) :
    itemRecords depth items.tail ⊆ itemRecords depth items := by
  cases items <;> simp [itemRecords]

theorem records_subset_of_mem {depth : Nat} {entries : List (Placed × Placed)}
    {e : Placed × Placed} (he : e ∈ entries) :
    e.1.records depth ⊆ entryRecords depth entries ∧
      e.2.records depth ⊆ entryRecords depth entries := by
  induction entries with
  | nil => cases he
  | cons e' rest ih =>
    rw [entryRecords]
    rcases List.mem_cons.mp he with rfl | he
    · exact ⟨by simp, by simp⟩
    · obtain ⟨hkey, hvalue⟩ := ih he
      exact ⟨List.subset_append_of_subset_right _ hkey,
        List.subset_append_of_subset_right _ hvalue⟩

mutual

theorem same_eq_contents (depth : Nat) (a b : Placed)
    (h : Consistent (a.records depth) (b.records depth)) :
    a.same b = a.contents.same b.contents := by
  cases a with
  | list as =>
    cases b with
    | list bs => exact sameItems_eq_contents (depth + 1) as bs h
    | _ => rfl
  | map as =>
    cases b with
    | map bs =>
      simp only [same, contents, Value.same, entryContents_eq_map, List.length_map]
      rw [includedIn_eq_contents (depth + 1) bs as h, entryContents_eq_map, entryContents_eq_map]
    | _ => rfl
  | record p s as =>
    cases b with
    | record q t bs =>
      -- At one address the slots are not looked at, and the records are equal by assumption.
      by_cases haddress : p = q
      · have hequal : (contents (record p s as)).same (contents (record q t bs)) = true :=
          h _ List.mem_cons_self _ List.mem_cons_self (congrArg (Prod.mk depth) haddress)
        rw [hequal, same, haddress, beq_self_eq_true, Bool.true_or]
      · have hslots := sameSlots_eq_contents (depth + 1) s.attributes.length as bs
          (h.mono (List.subset_cons_self _ _) (List.subset_cons_self _ _))
        rw [same, contents, contents, Value.same, hslots, beq_false_of_ne haddress, Bool.false_or]
    | _ => rfl
  | _ => cases b <;> rfl
termination_by structural a

theorem sameItems_eq_contents (depth : Nat) (as bs : List Placed)
    (h : Consistent (itemRecords depth as) (itemRecords depth bs)) :
    sameItems as bs = Value.sameItems (itemContents as) (itemContents bs) := by
  cases as with
  | nil => cases bs <;> rfl
  | cons a as =>
    cases bs with
    | nil => rfl
    | cons b bs =>
      have hfirst :=
        same_eq_contents depth a b (h.mono (by simp [itemRecords]) (by simp [itemRecords]))
      have hrest :=
        sameItems_eq_contents depth as bs (h.mono (by simp [itemRecords]) (by simp [itemRecords]))
      rw [sameItems, hfirst, hrest, itemContents, itemContents, Value.sameItems]
termination_by structural as

theorem includedIn_eq_contents (depth : Nat) (bs as : List (Placed × Placed))
    (h : Consistent (entryRecords depth as) (entryRecords depth bs)) :
    includedIn bs as = Value.includedIn (entryContents bs) (entryContents as) := by
  cases as with
  | nil => rfl
  | cons e as =>
    obtain ⟨k, a⟩ := e
    -- The partner may be any entry of `bs`, so key and value are compared with those of each.
    have hkey (e : Placed × Placed) (he : e ∈ bs) : k.same e.1 = k.contents.same e.1.contents :=
      same_eq_contents depth k e.1 (h.mono (by simp [entryRecords]) (records_subset_of_mem he).1)
    have hvalue (e : Placed × Placed) (he : e ∈ bs) : a.same e.2 = a.contents.same e.2.contents :=
      same_eq_contents depth a e.2 (h.mono (by simp [entryRecords]) (records_subset_of_mem he).2)
    have hrest := includedIn_eq_contents depth bs as (h.mono (by simp [entryRecords]) (by simp))
    rw [includedIn, hrest, entryContents, Value.includedIn]
    congr 1
    rw [entryContents_eq_map, List.any_map, Bool.eq_iff_iff, List.any_eq_true, List.any_eq_true]
    refine exists_congr fun e => and_congr_right fun he => ?_
    rw [hkey e he, hvalue e he, Function.comp_apply]
termination_by structural as

theorem sameSlots_eq_contents (depth : Nat) (slots : Nat) (as bs : List Placed)
    (h : Consistent (itemRecords depth as) (itemRecords depth bs)) :
    sameSlots slots as bs = Value.sameSlots slots (itemContents as) (itemContents bs) := by
  cases slots with
  | zero => cases as <;> rfl
  | succ slots =>
    cases as with
    | nil =>
      rw [sameSlots, itemContents, Value.sameSlots, itemContents_eq_map, ← List.map_take,
        List.all_map]
      rfl
    | cons a as =>
      have hfirst := same_eq_contents depth a (bs.headD null)
        (h.mono (by simp [itemRecords]) (records_headD_subset depth bs))
      have hrest := sameSlots_eq_contents depth slots as bs.tail
        (h.mono (by simp [itemRecords]) (itemRecords_tail_subset depth bs))
      rw [sameSlots, hfirst, hrest, itemContents, Value.sameSlots, itemContents_headD,
        itemContents_tail]
termination_by structural as

end

/-! ## One record at one address -/

section

variable {a b : Placed} {depth : Nat}

/-- At each depth of the two values, an address has one record. -/
def Coherent (a b : Placed) : Prop :=
  ∀ p ∈ a.records 0, ∀ q ∈ b.records 0, p.1 = q.1 → p.2 = q.2

theorem Coherent.symm (h : Coherent a b) : Coherent b a :=
  fun q hq p hp haddress => (h p hp q hq haddress.symm).symm

/-- At each depth, the records of a value are those that a memory has at their addresses. -/
def LiesIn (memory : Nat → Nat → Record) (depth : Nat) (a : Placed) : Prop :=
  ∀ p ∈ a.records depth, memory p.1.1 p.1.2 = p.2

theorem same_eq_of_records_eq (depth : Nat)
    (h : ∀ p ∈ a.records depth, ∀ q ∈ b.records depth, p.1 = q.1 → p.2 = q.2) :
    a.same b = a.contents.same b.contents := by
  refine same_eq_contents depth a b fun p hp q hq haddress => ?_
  rw [h p hp q hq haddress]
  exact Value.same_self _

theorem Coherent.same_eq (h : Coherent a b) : a.same b = a.contents.same b.contents :=
  same_eq_of_records_eq 0 h

theorem LiesIn.same_eq {memory : Nat → Nat → Record} (ha : a.LiesIn memory depth)
    (hb : b.LiesIn memory depth) : a.same b = a.contents.same b.contents := by
  refine same_eq_of_records_eq depth fun p hp q hq haddress => ?_
  rw [← ha p hp, ← hb q hq, haddress]

end

/-! ## Values at an address -/

mutual

/-- The value with all of its records at one address. -/
def ofValue (address : Nat) : Value → Placed
  | .null => null
  | .bool b => bool b
  | .number n => number n
  | .timestamp t => timestamp t
  | .string s => string s
  | .list items => list (ofItems address items)
  | .map entries => map (ofEntries address entries)
  | .record type values => record address type (ofItems address values)
termination_by structural v => v

def ofItems (address : Nat) : List Value → List Placed
  | [] => []
  | v :: rest => ofValue address v :: ofItems address rest
termination_by structural items => items

def ofEntries (address : Nat) : List (Value × Value) → List (Placed × Placed)
  | [] => []
  | (k, v) :: rest => (ofValue address k, ofValue address v) :: ofEntries address rest
termination_by structural entries => entries

end

variable {address : Nat}

theorem ofItems_eq_map (items : List Value) :
    ofItems address items = items.map (ofValue address) := by
  induction items with
  | nil => rfl
  | cons v rest ih => rw [ofItems, ih, List.map_cons]

theorem ofEntries_eq_map (entries : List (Value × Value)) : ofEntries address entries =
    entries.map fun e => (ofValue address e.1, ofValue address e.2) := by
  induction entries with
  | nil => rfl
  | cons e rest ih => rw [ofEntries, ih, List.map_cons]

mutual

@[simp] theorem contents_ofValue (v : Value) : (ofValue address v).contents = v := by
  cases v with
  | list items => rw [ofValue, contents, itemContents_ofItems items]
  | map entries => rw [ofValue, contents, entryContents_ofEntries entries]
  | record type values => rw [ofValue, contents, itemContents_ofItems values]
  | _ => rfl
termination_by structural v

theorem itemContents_ofItems (items : List Value) :
    itemContents (ofItems address items) = items := by
  cases items with
  | nil => rfl
  | cons v rest => rw [ofItems, itemContents, contents_ofValue v, itemContents_ofItems rest]
termination_by structural items

theorem entryContents_ofEntries (entries : List (Value × Value)) :
    entryContents (ofEntries address entries) = entries := by
  cases entries with
  | nil => rfl
  | cons e rest =>
    rw [ofEntries, entryContents, contents_ofValue e.1, contents_ofValue e.2,
      entryContents_ofEntries rest]
termination_by structural entries

end

mutual

theorem records_ofValue (depth : Nat) (v : Value) :
    ∀ p ∈ (ofValue address v).records depth, p.1.2 = address := by
  cases v with
  | list items => exact itemRecords_ofItems (depth + 1) items
  | map entries => exact entryRecords_ofEntries (depth + 1) entries
  | record type values =>
    exact List.forall_mem_cons.mpr ⟨rfl, itemRecords_ofItems (depth + 1) values⟩
  | _ => exact nofun
termination_by structural v

theorem itemRecords_ofItems (depth : Nat) (items : List Value) :
    ∀ p ∈ itemRecords depth (ofItems address items), p.1.2 = address := by
  cases items with
  | nil => exact nofun
  | cons v rest =>
    exact List.forall_mem_append.mpr ⟨records_ofValue depth v, itemRecords_ofItems depth rest⟩
termination_by structural items

theorem entryRecords_ofEntries (depth : Nat) (entries : List (Value × Value)) :
    ∀ p ∈ entryRecords depth (ofEntries address entries), p.1.2 = address := by
  cases entries with
  | nil => exact nofun
  | cons e rest =>
    exact List.forall_mem_append.mpr ⟨List.forall_mem_append.mpr
      ⟨records_ofValue depth e.1, records_ofValue depth e.2⟩, entryRecords_ofEntries depth rest⟩
termination_by structural entries

end

/-- A value can be put where it shares no address with another. -/
theorem exists_coherent (a : Placed) (v : Value) : ∃ b, b.contents = v ∧ Coherent a b := by
  let taken := (a.records 0).map fun p => p.1.2
  obtain ⟨address, hfresh⟩ := Infinite.exists_notMem_finset taken.toFinset
  refine ⟨ofValue address v, contents_ofValue v, fun p hp q hq haddress => ?_⟩
  rw [List.mem_toFinset] at hfresh
  have hsame : p.1.2 = address := (congrArg Prod.snd haddress).trans (records_ofValue 0 v q hq)
  exact absurd (List.mem_map.mpr ⟨p, hp, hsame⟩) hfresh

theorem same_ofValue {address' : Nat} (h : address ≠ address') (v w : Value) :
    (ofValue address v).same (ofValue address' w) = v.same w := by
  have hapart : Coherent (ofValue address v) (ofValue address' w) := by
    intro p hp q hq haddress
    rw [← records_ofValue 0 v p hp, ← records_ofValue 0 w q hq] at h
    exact absurd (congrArg Prod.snd haddress) h
  rw [hapart.same_eq, contents_ofValue, contents_ofValue]

/-! ## Addresses first -/

/-- Every value equals itself, with addresses and without, and every record does so attribute by
attribute. Where an address has one record at each depth, addresses are of no account. -/
theorem same_by_address (a b : Placed) :
    a.same a = true ∧ a.contents.same a.contents = true ∧
    (∀ (type : RecordType) (values : List Placed),
      sameSlots type.attributes.length values values = true) ∧
    (Coherent a b → a.same b = a.contents.same b.contents) :=
  ⟨same_refl a, Value.same_self _, fun _ _ => sameSlots_refl _ _, Coherent.same_eq⟩

/-- Two lists share one record, and the records that end them are equal at different addresses. An
attribute is NaN, and another is a map in which NaN is the key of two entries. -/
theorem same_by_address_nested :
    let nan := number (.float .nan)
    let inner (address : Nat) :=
      record address ⟨1, "U", ["v", "m"]⟩ [nan, map [(nan, bool true), (nan, null)]]
    let shared := record 1 ⟨0, "T", ["u"]⟩ [inner 2]
    let a := list [shared, inner 3]
    let b := list [shared, inner 4]
    Coherent a b ∧ a.contents.same b.contents = true ∧ a.same b = true := by
  intro nan inner shared a b
  have hone : Coherent a b := by
    simp [Coherent, a, b, shared, inner, nan, records, itemRecords, entryRecords]
  have hcontents : a.contents.same b.contents = true := (same_by_address a b).2.1
  exact ⟨hone, hcontents, ((same_by_address a b).2.2.2 hone).trans hcontents⟩

/-- A record and its first attribute at one address count as equal, and their types differ. -/
theorem same_at_one_address :
    let inner := record 1 ⟨1, "U", ["v"]⟩ [null]
    let outer := record 1 ⟨0, "T", ["u"]⟩ [inner]
    outer.same inner = true ∧ outer.contents.same inner.contents = false := by
  decide

end RecordQuery.Placed
