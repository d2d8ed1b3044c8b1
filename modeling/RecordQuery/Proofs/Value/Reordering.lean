import RecordQuery.Proofs.Value.Placed

/-!
# The order of map entries

Equality looks for entries and not for their places. So it does not tell apart two values that
differ in the order of map entries alone, in whatever lists, keys, values and records the maps
stand. The order of lists does count. Addresses stay where they are.
-/

namespace RecordQuery.Placed

/-- The least congruence under which the entries of a map may stand in any order: the second value
is the first with the entries of maps reordered, any number of maps at any depth. -/
inductive Reordered : Placed → Placed → Prop where
  | refl (a : Placed) : Reordered a a
  | trans {a b c : Placed} (h : Reordered a b) (h' : Reordered b c) : Reordered a c
  | entries {es es' : List (Placed × Placed)} (h : es.Perm es') : Reordered (map es) (map es')
  | item (before after : List Placed) {a b : Placed} (h : Reordered a b) :
    Reordered (list (before ++ a :: after)) (list (before ++ b :: after))
  | entry (before after : List (Placed × Placed)) {k k' a b : Placed} (hkey : Reordered k k')
    (hvalue : Reordered a b) :
    Reordered (map (before ++ (k, a) :: after)) (map (before ++ (k', b) :: after))
  | slot (address : Nat) (type : RecordType) (before after : List Placed) {a b : Placed}
    (h : Reordered a b) :
    Reordered (record address type (before ++ a :: after))
      (record address type (before ++ b :: after))

/-- Two values that equality does not tell apart, on either side. -/
def Interchangeable (a b : Placed) : Prop := ∀ x, same a x = same b x ∧ same x a = same x b

namespace Interchangeable

variable {a b c : Placed}

theorem refl (a : Placed) : Interchangeable a a := fun _ => ⟨rfl, rfl⟩

theorem trans (h : Interchangeable a b) (h' : Interchangeable b c) : Interchangeable a c :=
  fun x => ⟨(h x).1.trans (h' x).1, (h x).2.trans (h' x).2⟩

theorem of_entries {es es' : List (Placed × Placed)} (hlength : es.length = es'.length)
    (hfrom : ∀ cs, includedIn cs es = includedIn cs es')
    (hinto : ∀ cs, includedIn es cs = includedIn es' cs) : Interchangeable (map es) (map es') := by
  intro x
  cases x with
  | map cs => simp only [same, hlength, hfrom, hinto, and_self]
  | _ => exact ⟨rfl, rfl⟩

theorem of_perm {es es' : List (Placed × Placed)} (h : es.Perm es') :
    Interchangeable (map es) (map es') := by
  refine of_entries h.length_eq (fun cs => ?_) fun cs => ?_ <;> rw [Bool.eq_iff_iff]
  · simp only [includedIn_iff, h.mem_iff]
  · simp only [includedIn_iff, h.mem_iff]

theorem entry {k k' : Placed} (hkey : Interchangeable k k') (hvalue : Interchangeable a b)
    (before after : List (Placed × Placed)) :
    Interchangeable (map (before ++ (k, a) :: after)) (map (before ++ (k', b) :: after)) := by
  refine of_entries (by simp) (fun cs => ?_) fun cs => ?_ <;> rw [Bool.eq_iff_iff]
  · simp only [includedIn_iff, List.forall_mem_append, List.forall_mem_cons, (hkey _).1,
      (hvalue _).1]
  · simp only [includedIn_iff, List.mem_append, List.mem_cons, or_and_right, exists_or,
      exists_eq_left, (hkey _).2, (hvalue _).2]

theorem sameItems_left (h : Interchangeable a b) (before after cs : List Placed) :
    sameItems (before ++ a :: after) cs = sameItems (before ++ b :: after) cs := by
  induction before generalizing cs with
  | nil => cases cs with
    | nil => rfl
    | cons c cs => simp only [List.nil_append, sameItems, (h c).1]
  | cons b before ih => cases cs with
    | nil => rfl
    | cons c cs => simp only [List.cons_append, sameItems, ih]

theorem sameItems_right (h : Interchangeable a b) (before after cs : List Placed) :
    sameItems cs (before ++ a :: after) = sameItems cs (before ++ b :: after) := by
  induction before generalizing cs with
  | nil => cases cs with
    | nil => rfl
    | cons c cs => simp only [List.nil_append, sameItems, (h c).2]
  | cons b before ih => cases cs with
    | nil => rfl
    | cons c cs => simp only [List.cons_append, sameItems, ih]

theorem item (h : Interchangeable a b) (before after : List Placed) :
    Interchangeable (list (before ++ a :: after)) (list (before ++ b :: after)) := by
  intro x
  cases x with
  | list cs => exact ⟨h.sameItems_left before after cs, h.sameItems_right before after cs⟩
  | _ => exact ⟨rfl, rfl⟩

theorem getD (h : Interchangeable a b) (before after : List Placed) (i : Nat) :
    Interchangeable ((before ++ a :: after).getD i null) ((before ++ b :: after).getD i null) := by
  induction before generalizing i with
  | nil => cases i with
    | zero => exact h
    | succ i => exact refl _
  | cons c before ih => cases i with
    | zero => exact refl c
    | succ i => exact ih i

theorem slot (h : Interchangeable a b) (address : Nat) (type : RecordType)
    (before after : List Placed) :
    Interchangeable (record address type (before ++ a :: after))
      (record address type (before ++ b :: after)) := by
  intro x
  cases x with
  | record address' t cs =>
    have hslots (i : Nat) := h.getD before after i
    constructor <;> rw [Bool.eq_iff_iff]
    · simp only [same, Bool.or_eq_true, Bool.and_eq_true, sameSlots_iff, (hslots _ _).1]
    · simp only [same, Bool.or_eq_true, Bool.and_eq_true, sameSlots_iff, (hslots _ _).2]
  | _ => exact ⟨rfl, rfl⟩

end Interchangeable

namespace Reordered

theorem interchangeable {a b : Placed} (h : Reordered a b) : Interchangeable a b := by
  induction h with
  | refl a => exact .refl a
  | trans _ _ ih ih' => exact ih.trans ih'
  | entries h => exact .of_perm h
  | item before after _ ih => exact ih.item before after
  | entry before after _ _ ihkey ihvalue => exact ihkey.entry ihvalue before after
  | slot address type before after _ ih => exact ih.slot address type before after

/-- What is reordered stays so wherever it is put. -/
theorem ofContents {a b : Placed} (h : Reordered a b) (address : Nat) :
    Reordered (ofValue address a.contents) (ofValue address b.contents) := by
  induction h with
  | refl a => exact .refl _
  | trans _ _ ih ih' => exact ih.trans ih'
  | entries h =>
    simp only [contents, ofValue, entryContents_eq_map, ofEntries_eq_map]
    exact .entries ((h.map _).map _)
  | item before after _ ih =>
    simp only [contents, ofValue, itemContents_eq_map, ofItems_eq_map, List.map_append,
      List.map_cons]
    exact .item _ _ ih
  | entry before after _ _ ihkey ihvalue =>
    simp only [contents, ofValue, entryContents_eq_map, ofEntries_eq_map, List.map_append,
      List.map_cons]
    exact .entry _ _ ihkey ihvalue
  | slot _ type before after _ ih =>
    simp only [contents, ofValue, itemContents_eq_map, ofItems_eq_map, List.map_append,
      List.map_cons]
    exact .slot _ _ _ _ ih

end Reordered

/-- With the entries of maps in another order, at any depth of either side, equality says the same,
with addresses and without, and what is reordered equals what it was. -/
theorem same_reordered {a a' b b' : Placed} (ha : Reordered a a') (hb : Reordered b b') :
    same a b = same a' b' ∧ a.contents.same b.contents = a'.contents.same b'.contents ∧
      same a a' = true := by
  have hsame {a a' b b' : Placed} (ha : Reordered a a') (hb : Reordered b b') :
      same a b = same a' b' := (ha.interchangeable b).1.trans (hb.interchangeable a').2
  refine ⟨hsame ha hb, ?_, ?_⟩
  · have happart := hsame (ha.ofContents 0) (hb.ofContents 1)
    rwa [same_ofValue Nat.zero_ne_one, same_ofValue Nat.zero_ne_one] at happart
  · rw [← (ha.interchangeable a).2]
    exact same_refl a

/-- Maps in an attribute of a record in a list, with a map as a key and as a value, in which a key
is repeated; all of them are reordered, on one side the inner ones too. -/
theorem same_reordered_nested :
    let type : RecordType := ⟨0, "T", ["m"]⟩
    let inner := map [(string "x", null), (string "x", bool true)]
    let inner' := map [(string "x", bool true), (string "x", null)]
    let outer (address : Nat) (entries : List (Placed × Placed)) :=
      list [record address type [map entries]]
    let a := outer 1 [(inner, null), (bool true, inner)]
    let a' := outer 1 [(bool true, inner'), (inner', null)]
    let b := outer 2 [(inner', null), (bool true, inner)]
    let b' := outer 2 [(bool true, inner), (inner', null)]
    Reordered a a' ∧ Reordered b b' ∧ same a b = true ∧ same a' b' = true := by
  intro type inner inner' outer a a' b b'
  have hinner : Reordered inner inner' := .entries (.swap _ _ _)
  have houter {address : Nat} {es es' : List (Placed × Placed)} (h : Reordered (map es) (map es')) :
      Reordered (outer address es) (outer address es') := .item [] [] (.slot address type [] [] h)
  have ha : Reordered a a' := by
    have hkey : Reordered a (outer 1 [(inner', null), (bool true, inner)]) :=
      houter (.entry [] [(bool true, inner)] hinner (.refl null))
    have hvalue : Reordered (outer 1 [(inner', null), (bool true, inner)])
        (outer 1 [(inner', null), (bool true, inner')]) :=
      houter (.entry [(inner', null)] [] (.refl (bool true)) hinner)
    exact (hkey.trans hvalue).trans (houter (.entries (.swap _ _ _)))
  have hb : Reordered b b' := houter (.entries (.swap _ _ _))
  have hab : same a b = true := by decide
  exact ⟨ha, hb, hab, (same_reordered ha hb).1.symm.trans hab⟩

example : same (list [null, bool true]) (list [bool true, null]) = false := by decide

end RecordQuery.Placed
