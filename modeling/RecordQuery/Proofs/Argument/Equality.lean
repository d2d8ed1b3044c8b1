import RecordQuery.Argument
import RecordQuery.Proofs.Value.Equality
import RecordQuery.Regex.Standard

/-!
# Equality of arguments

A regular expression is told from a string by equality of the two, but not inside lists, which are
compared by their values. So two lists with equal items are equal, and two equal lists have equal
items as long as regular expressions stand at the same places in both.
-/

namespace RecordQuery

/-! ## Lists put together -/

section

variable {α β : Type} {f : α → List β} {as bs : List α}

theorem length_flatMap_eq (h : List.Forall₂ (fun a b => (f a).length = (f b).length) as bs) :
    (as.flatMap f).length = (bs.flatMap f).length := by
  induction h with
  | nil => rfl
  | cons hfirst _ ih =>
    rw [List.flatMap_cons, List.flatMap_cons, List.length_append, List.length_append, hfirst, ih]

theorem flatMap_eq_iff_forall₂ (h : List.Forall₂ (fun a b => (f a).length = (f b).length) as bs) :
    as.flatMap f = bs.flatMap f ↔ List.Forall₂ (fun a b => f a = f b) as bs := by
  induction h with
  | nil => simp
  | cons hfirst _ ih =>
    rw [List.flatMap_cons, List.flatMap_cons, List.forall₂_cons, ← ih]
    exact ⟨fun heq => List.append_inj heq hfirst, fun ⟨hhere, hthere⟩ => by rw [hhere, hthere]⟩

end

namespace Argument

def items : Argument → List Argument
  | list items => items
  | _ => []

def isRegex : Argument → Bool
  | regex _ => true
  | _ => false

/-- What holds of an argument as soon as it holds of its items holds of all arguments. -/
theorem induction_items {P : Argument → Prop} (h : ∀ a, (∀ x ∈ a.items, P x) → P a)
    (a : Argument) : P a := by
  refine @Argument.rec P (fun items => ∀ x ∈ items, P x) ?null ?bool ?number ?timestamp ?string
    (fun items hitems => h (list items) hitems) ?regex (by simp) ?cons a
  case null => exact h null (by simp [items])
  case bool | number | timestamp | string | regex =>
    intro x
    exact h _ (by simp [items])
  case cons => exact fun a rest ha hrest => List.forall_mem_cons.mpr ⟨ha, hrest⟩

/-! ## Equality by value -/

theorem same_iff {a b : Argument} :
    same a b = true ↔ a.toValue.same b.toValue = true ∧ a.isRegex = b.isRegex := by
  cases a <;> cases b <;> simp [same, toValue, Value.same, isRegex, BEq.beq]

theorem sameValue_list_iff {xs ys : List Argument} :
    (list xs).toValue.same (list ys).toValue = true ↔
      List.Forall₂ (fun x y => x.toValue.same y.toValue = true) xs ys := by
  rw [toValue, toValue, itemValues_eq_map, itemValues_eq_map, Value.same, Value.sameItems_iff,
    List.forall₂_map_left_iff, List.forall₂_map_right_iff]

theorem same_list_iff {xs ys : List Argument} :
    same (list xs) (list ys) = true ↔
      List.Forall₂ (fun x y => x.toValue.same y.toValue = true) xs ys := by
  rw [same_iff, sameValue_list_iff]
  simp [isRegex]

/-! ## Equality throughout -/

mutual

/-- Equality that looks at lists item by item, however deep. -/
def sameThroughout : Argument → Argument → Bool
  | list xs, list ys => sameItemsThroughout xs ys
  | a, b => same a b
termination_by structural a => a

def sameItemsThroughout : List Argument → List Argument → Bool
  | [], [] => true
  | x :: xs, y :: ys => sameThroughout x y && sameItemsThroughout xs ys
  | _, _ => false
termination_by structural xs => xs

end

mutual

/-- Which of the arguments in nested lists are regular expressions, from left to right. -/
def regexMarks : Argument → List Bool
  | list items => itemMarks items
  | a => [a.isRegex]
termination_by structural a => a

def itemMarks : List Argument → List Bool
  | [] => []
  | a :: rest => regexMarks a ++ itemMarks rest
termination_by structural items => items

end

theorem itemMarks_eq_flatMap (items : List Argument) :
    itemMarks items = items.flatMap regexMarks := by
  induction items with
  | nil => rfl
  | cons a rest ih => simp [itemMarks, ih]

theorem sameItemsThroughout_iff {xs ys : List Argument} :
    sameItemsThroughout xs ys = true ↔
      List.Forall₂ (fun x y => sameThroughout x y = true) xs ys := by
  induction xs generalizing ys with
  | nil => cases ys <;> simp [sameItemsThroughout]
  | cons x xs ih => cases ys <;> simp [sameItemsThroughout, ih]

theorem length_regexMarks {a b : Argument} (h : a.toValue.same b.toValue = true) :
    a.regexMarks.length = b.regexMarks.length := by
  induction a using induction_items generalizing b with
  | h a ih =>
    cases a with
    | list xs =>
      cases b with
      | list ys =>
        rw [regexMarks, regexMarks, itemMarks_eq_flatMap, itemMarks_eq_flatMap]
        have hlengths := forall₂_imp_of_mem (fun x hx y => ih x hx) (sameValue_list_iff.mp h)
        exact length_flatMap_eq hlengths
      | _ => simp [toValue, Value.same] at h
    | _ => cases b <;> simp_all [toValue, Value.same, regexMarks]

/-- Besides the values only the places of the regular expressions count. -/
theorem sameThroughout_iff {a b : Argument} :
    sameThroughout a b = true ↔
      a.toValue.same b.toValue = true ∧ a.regexMarks = b.regexMarks := by
  induction a using induction_items generalizing b with
  | h a ih =>
    cases a with
    | list xs =>
      cases b with
      | list ys =>
        rw [sameThroughout, sameItemsThroughout_iff, sameValue_list_iff, regexMarks, regexMarks,
          itemMarks_eq_flatMap, itemMarks_eq_flatMap]
        constructor
        · intro h
          have hboth := forall₂_imp_of_mem (fun x hx y hxy => (ih x hx).mp hxy) h
          have hmarks := hboth.imp fun x y hxy => hxy.2
          refine ⟨hboth.imp fun x y hxy => hxy.1, (flatMap_eq_iff_forall₂ ?_).mpr hmarks⟩
          exact hmarks.imp fun x y hxy => congrArg List.length hxy
        · rintro ⟨hvalues, hmarks⟩
          -- equal values have equally many marks, so equal marks in all are equal item by item
          have hlengths := hvalues.imp fun x y hxy => length_regexMarks hxy
          have hitems := (flatMap_eq_iff_forall₂ hlengths).mp hmarks
          have hboth := hvalues.mp (fun x y => And.intro) hitems
          exact forall₂_imp_of_mem (fun x hx y hxy => (ih x hx).mpr hxy) hboth
      | _ => simp [sameThroughout, same, toValue, Value.same, BEq.beq]
    | _ => cases b <;> simp [sameThroughout, same_iff, toValue, Value.same, regexMarks, isRegex]

/-! ## Lists -/

/-- Two lists are equal exactly if they are equally long and their items are equal as values. A
regular expression equals no string, but a list of one equals the list of its text. -/
theorem same_list_iff_values (xs ys : List Argument) :
    (same (list xs) (list ys) = true ↔ xs.length = ys.length ∧
      ∀ i (hi : i < xs.length) (hi' : i < ys.length), xs[i].toValue.same ys[i].toValue = true) ∧
    ((xs.length = ys.length ∧
        ∀ i (hi : i < xs.length) (hi' : i < ys.length), same xs[i] ys[i] = true) ↔
      same (list xs) (list ys) = true ∧ xs.map isRegex = ys.map isRegex) ∧
    (sameThroughout (list xs) (list ys) = true ↔
      same (list xs) (list ys) = true ∧ (list xs).regexMarks = (list ys).regexMarks) ∧
    ∀ (r : Regex) (s : String), same (regex r) (string s) = false ∧
      same (list [regex r]) (list [string s]) = (r.source == s) := by
  refine ⟨?_, ?_, ?_, fun r s => ⟨rfl, ?_⟩⟩
  · rw [same_list_iff, List.forall₂_iff_get]
    rfl
  · have hitems : (xs.length = ys.length ∧
        ∀ i (hi : i < xs.length) (hi' : i < ys.length), same xs[i] ys[i] = true) ↔
        List.Forall₂ (fun x y => same x y = true) xs ys := by
      rw [List.forall₂_iff_get]
      rfl
    have hkinds : xs.map isRegex = ys.map isRegex ↔
        List.Forall₂ (fun x y => x.isRegex = y.isRegex) xs ys := by
      rw [← List.forall₂_eq_eq_eq, List.forall₂_map_left_iff, List.forall₂_map_right_iff]
    rw [hitems, same_list_iff, hkinds]
    constructor
    · intro h
      exact ⟨h.imp fun x y hxy => (same_iff.mp hxy).1, h.imp fun x y hxy => (same_iff.mp hxy).2⟩
    · rintro ⟨hvalues, hkinds⟩
      exact hvalues.mp (fun x y hvalue hkind => same_iff.mpr ⟨hvalue, hkind⟩) hkinds
  · rw [sameThroughout_iff, same_iff]
    simp [isRegex]
  · rw [Bool.eq_iff_iff, same_list_iff]
    simp [toValue, Value.same]

/-- A list with a regular expression is equal to one with its text, which it is not equal to. -/
theorem same_list_mixes :
    ∃ r, Regex.compile {} "a" = .ok r ∧ same (list [regex r]) (list [string "a"]) = true ∧
      same (regex r) (string "a") = false := ⟨_, rfl, rfl, rfl⟩

end Argument

end RecordQuery
