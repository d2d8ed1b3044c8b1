import RecordQuery.Proofs.Filter.Answer
import RecordQuery.Regex.Standard

/-!
# Membership and equality

A value is a member of a list of arguments exactly if it equals one of them, and no member exactly
if it is unequal to all, so each of the two is the negation of the other. This holds of null as of
any value. Of what is no list, nothing is a member or no member.
-/

namespace RecordQuery

theorem Argument.isNull_toValue_iff {x : Argument} : x.toValue.isNull = true ↔ x = .null := by
  cases x <;> simp [toValue, Value.isNull, Value.kind]

/-- The operators that ask whether a value equals an argument or one of its items. -/
def Operator.ofEquality : List Operator := [.equals, .notEquals, .oneOf, .noneOf]

namespace Test

/-- An item is compared as an argument of equality is, with case. -/
theorem run_ofMembers_list (found : Option Value) (negated : Bool) (items : List Argument) :
    (ofMembers negated (.list items)).run found =
      .ok (items.any (fun x => sameAttribute false found x.toValue) != negated) := by
  rw [ofMembers, Argument.toList?]
  exact congrArg (fun b => Except.ok (b != negated)) List.any_map

theorem run_ofMembers_other (found : Option Value) (negated : Bool) {x : Argument}
    (hx : x.toList? = none) : (ofMembers negated x).run found = .ok false := by
  rw [ofMembers, hx]
  rfl

end Test

namespace Filter

section

variable [Regex.Library] {path : SharedPath} {r : Record} {found : Option Value}

theorem answer_equality (hr : path.path.resolve r = .ok found) (x : Argument) :
    answer path .equals false [x] r = .ok (Test.sameAttribute false found x.toValue) ∧
      answer path .notEquals false [x] r = .ok !Test.sameAttribute false found x.toValue := by
  rw [answer_of_resolve (by decide) hr, answer_of_resolve (by decide) hr]
  exact ⟨congrArg Except.ok (Bool.bne_false _), congrArg Except.ok (Bool.bne_true _)⟩

theorem answer_membership (hr : path.path.resolve r = .ok found) (ignoreCase : Bool)
    (items rest : List Argument) :
    let member := items.any fun x => Test.sameAttribute false found x.toValue
    answer path .oneOf ignoreCase (.list items :: rest) r = .ok member ∧
      answer path .noneOf ignoreCase (.list items :: rest) r = .ok !member := by
  rw [answer_of_resolve (by decide) hr, answer_of_resolve (by decide) hr]
  refine ⟨(Test.run_ofMembers_list found false items).trans ?_,
    (Test.run_ofMembers_list found true items).trans ?_⟩
  · rw [Bool.bne_false]
  · rw [Bool.bne_true]

/-- A value is in a list exactly if it equals an item, case counting, and is not in it exactly if it
is unequal to all items. -/
theorem membership_iff_equality (path : SharedPath) (r : Record) (ignoreCase : Bool)
    (rest : List Argument) :
    (∀ e, path.path.resolve r = .error e → ∀ op ∈ Operator.ofEquality,
      ∀ x, answer path op ignoreCase (x :: rest) r = .error e) ∧
    ∀ found, path.path.resolve r = .ok found →
      (∀ items : List Argument,
        let among := answer path .oneOf ignoreCase (.list items :: rest) r
        let notAmong := answer path .noneOf ignoreCase (.list items :: rest) r
        (∃ member : Bool, among = .ok member ∧ notAmong = .ok !member) ∧
        (among = .ok true ↔ ∃ x ∈ items, answer path .equals false [x] r = .ok true) ∧
        (notAmong = .ok true ↔ ∀ x ∈ items, answer path .notEquals false [x] r = .ok true) ∧
        (items = [] → among = .ok false ∧ notAmong = .ok true) ∧
        (found = none → (among = .ok true ↔ .null ∈ items))) ∧
      ∀ x : Argument, x.toList? = none → ∀ op ∈ [Operator.oneOf, .noneOf],
        answer path op ignoreCase (x :: rest) r = .ok false := by
  refine ⟨fun e he op hop x => ?_, fun found hr => ⟨fun items => ?_, fun x hx op hop => ?_⟩⟩
  · have hop : op ∈ Operator.ofArgument := (by decide : Operator.ofEquality ⊆ _) hop
    rw [answer_ofArgument hop, he]
    rfl
  · intro among notAmong
    obtain ⟨hamong, hnotAmong⟩ := answer_membership hr ignoreCase items rest
    refine ⟨⟨_, hamong, hnotAmong⟩, ?_, ?_, ?_, ?_⟩
    · simp [among, hamong, (answer_equality hr _).1]
    · simp [notAmong, hnotAmong, (answer_equality hr _).2]
    · rintro rfl
      exact ⟨hamong, hnotAmong⟩
    · rintro rfl
      simp [among, hamong, Test.sameAttribute, Argument.isNull_toValue_iff]
  · rw [List.mem_pair] at hop
    rcases hop with rfl | rfl
    · rw [answer_of_resolve (by decide) hr]
      exact Test.run_ofMembers_other found false hx
    · rw [answer_of_resolve (by decide) hr]
      exact Test.run_ofMembers_other found true hx

end

/-- Null is in a list with null, though it is no value. -/
theorem membership_iff_equality_null :
    let path : SharedPath := ⟨0, "v", by decide⟩
    let r : Record := ⟨⟨0, "T", ["v"]⟩, [.null]⟩
    let items : List Argument := [.string "a", .null]
    path.path.resolve r = .ok none ∧
      answer path .oneOf true [.list items] r = .ok true ∧
      answer path .noneOf true [.list items] r = .ok false ∧
      answer path .equals false [.null] r = .ok true ∧
      ∀ op ∈ [Operator.oneOf, .noneOf], answer path op true [.null] r = .ok false := by
  intro path r items
  have hr : path.path.resolve r = .ok none := by cbv
  obtain ⟨-, hresolved⟩ := membership_iff_equality path r true []
  obtain ⟨hlist, hother⟩ := hresolved none hr
  obtain ⟨⟨member, hamong, hnotAmong⟩, -, -, -, hnull⟩ := hlist items
  have hmember := (hnull rfl).mpr (List.mem_cons_of_mem _ List.mem_cons_self)
  cases hamong.symm.trans hmember
  exact ⟨hr, hmember, hnotAmong, (answer_equality hr .null).1, hother .null rfl⟩

end Filter

end RecordQuery
