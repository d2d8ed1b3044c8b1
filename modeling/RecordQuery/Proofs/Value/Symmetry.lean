import RecordQuery.Proofs.Value.Placed
import RecordQuery.Value.Collection

/-!
# Symmetry of equality

Equality of maps looks for the entries of the first map in the second. That is one-sided where two
entries of the first are found in one entry of the second. A value in whose maps no two entries can
be found in one equals from both sides whatever it equals from one, and only such a value does.
-/

namespace RecordQuery

/-- If a list is no longer than another, whose items have partners in it, different ones for
different items, then every item of it is a partner. -/
theorem exists_partner {α β : Type} {R : α → β → Prop} {as : List α} {bs : List β}
    (hlength : bs.length ≤ as.length) (hpartner : ∀ a ∈ as, ∃ b ∈ bs, R a b)
    (hapart : as.Pairwise fun a a' => ¬∃ b, R a b ∧ R a' b) : ∀ b ∈ bs, ∃ a ∈ as, R a b := by
  induction as generalizing bs with
  | nil =>
    rw [List.eq_nil_of_length_eq_zero (Nat.le_zero.mp hlength)]
    simp
  | cons a as ih =>
    obtain ⟨hfirst, hapart⟩ := List.pairwise_cons.mp hapart
    obtain ⟨⟨b, hb, hab⟩, hpartner⟩ := List.forall_mem_cons.mp hpartner
    obtain ⟨before, after, rfl⟩ := List.append_of_mem hb
    -- the partner of the first item is nobody else's, so the others find theirs without it
    have hothers : ∀ a' ∈ as, ∃ b' ∈ before ++ after, R a' b' := by
      intro a' ha'
      obtain ⟨b', hb', hab'⟩ := hpartner a' ha'
      have hne : b' ≠ b := by
        rintro rfl
        exact hfirst a' ha' ⟨b', hab, hab'⟩
      refine ⟨b', ?_, hab'⟩
      simpa [hne] using hb'
    have hshort : (before ++ after).length ≤ as.length := by
      simp only [List.length_append, List.length_cons] at hlength ⊢
      omega
    intro b' hb'
    by_cases heq : b' = b
    · exact ⟨a, List.mem_cons_self, heq ▸ hab⟩
    · have hmem : b' ∈ before ++ after := by simpa [heq] using hb'
      obtain ⟨a', ha', hab'⟩ := ih hshort hothers hapart b' hmem
      exact ⟨a', List.mem_cons_of_mem a ha', hab'⟩

namespace Value

def entries : Value → List (Value × Value)
  | map entries => entries
  | _ => []

/-- Two entries that can be found in one. -/
def Overlap (e e' : Value × Value) : Prop := ∃ common, SameEntry e common ∧ SameEntry e' common

/-- In no map, however deep, do two entries overlap. -/
inductive Separated : Value → Prop where
  | intro {v : Value} (parts : ∀ x ∈ v.parts, Separated x)
    (entries : v.entries.Pairwise fun e e' => ¬Overlap e e') : Separated v

theorem Separated.symm {a : Value} (h : a.Separated) {b : Value} (hab : same a b = true) :
    same b a = true := by
  induction h generalizing b with
  | @intro a _ hentries ih =>
    cases a with
    | null => cases b <;> simp_all [same]
    | bool x => cases b <;> simp_all [same]
    | number m =>
      cases b with
      | number n =>
        simp only [same, BEq.beq, decide_eq_true_eq] at hab ⊢
        rw [Number.compare_swap, hab]
        rfl
      | _ => simp [same] at hab
    | timestamp t => cases b <;> simp_all [same]
    | string s => cases b <;> simp_all [same]
    | list as =>
      obtain ⟨bs, rfl, hitems⟩ := same_list.mp hab
      have hflip : List.Forall₂ (fun x y => same y x = true) as bs :=
        forall₂_imp_of_mem (fun x hx _ => ih x hx) hitems
      exact same_list.mpr ⟨as, rfl, hflip.flip⟩
    | map as =>
      obtain ⟨bs, rfl, hlength, hincluded⟩ := same_map.mp hab
      refine same_map.mpr ⟨as, rfl, hlength.symm, fun e' he' => ?_⟩
      obtain ⟨e, he, hkey, hvalue⟩ := exists_partner hlength.ge hincluded hentries e' he'
      refine ⟨e, he, ?_, ?_⟩
      · exact ih e.1 (mem_parts_map.mpr ⟨e, he, .inl rfl⟩) hkey
      · exact ih e.2 (mem_parts_map.mpr ⟨e, he, .inr rfl⟩) hvalue
    | record s as =>
      obtain ⟨t, bs, rfl, hkey, hlength, hslots⟩ := same_record.mp hab
      refine same_record.mpr ⟨s, as, rfl, hkey.symm, hlength.symm, fun i hi => ?_⟩
      have hi' : i < s.attributes.length := hlength ▸ hi
      exact ih _ (mem_parts_record.mpr ⟨i, hi', rfl⟩) (hslots i hi')

/-! ## Values equal from one side only -/

theorem same_map_replace {before after : List (Value × Value)} {e e' : Value × Value}
    (h : SameEntry e e') :
    same (map (before ++ e :: after)) (map (before ++ e' :: after)) = true := by
  refine same_map.mpr ⟨_, rfl, by simp, fun found hfound => ?_⟩
  rcases List.mem_append.mp hfound with hbefore | hafter
  · exact ⟨found, List.mem_append_left _ hbefore, .refl found⟩
  rcases List.mem_cons.mp hafter with rfl | hafter
  · exact ⟨e', by simp, h⟩
  · exact ⟨found, by simp [hafter], .refl found⟩

theorem exists_same_with_part {a x y : Value} (hx : x ∈ a.parts) (h : same x y = true) :
    ∃ b, same a b = true ∧ y ∈ b.parts := by
  cases a with
  | list items =>
    obtain ⟨before, after, rfl⟩ := List.append_of_mem hx
    have hself (items : List Value) : List.Forall₂ (fun a b => same a b = true) items items :=
      List.forall₂_same.mpr fun v _ => same_self v
    refine ⟨list (before ++ y :: after), same_list.mpr ⟨_, rfl, ?_⟩, ?_⟩
    · exact List.rel_append (hself before) (.cons h (hself after))
    · simp [parts]
  | map entries =>
    obtain ⟨e, he, hpart⟩ := mem_parts_map.mp hx
    obtain ⟨before, after, rfl⟩ := List.append_of_mem he
    rcases hpart with rfl | rfl
    · have hkey : SameEntry e (y, e.2) := ⟨h, same_self e.2⟩
      exact ⟨_, same_map_replace hkey, mem_parts_map.mpr ⟨(y, e.2), by simp, .inl rfl⟩⟩
    · have hvalue : SameEntry e (e.1, y) := ⟨same_self e.1, h⟩
      exact ⟨_, same_map_replace hvalue, mem_parts_map.mpr ⟨(e.1, y), by simp, .inr rfl⟩⟩
  | record type values =>
    obtain ⟨i, hi, rfl⟩ := mem_parts_record.mp hx
    let replaced := (List.range type.attributes.length).map fun j =>
      if j = i then y else values.getD j null
    have hslot : ∀ j < type.attributes.length,
        replaced.getD j null = if j = i then y else values.getD j null := by
      intro j hj
      simp [replaced, List.getD_eq_getElem?_getD, hj]
    refine ⟨record type replaced, same_record.mpr ⟨type, replaced, rfl, rfl, rfl, ?_⟩, ?_⟩
    · intro j hj
      rw [hslot j hj]
      by_cases hji : j = i
      · rw [if_pos hji, hji]
        exact h
      · rw [if_neg hji]
        exact same_self _
    · refine mem_parts_record.mpr ⟨i, hi, ?_⟩
      rw [hslot i hi, if_pos rfl]
  | _ => simp [parts] at hx

/-- Where two entries overlap, an equal map has room for an entry with any key. -/
theorem exists_same_with_key {entries : List (Value × Value)}
    (h : ¬entries.Pairwise fun e e' => ¬Overlap e e') (key : Value) :
    ∃ b, same (map entries) b = true ∧ key ∈ b.parts := by
  rw [List.pairwise_iff_forall_sublist] at h
  push Not at h
  obtain ⟨e, e', hsub, common, hcommon, hcommon'⟩ := h
  obtain ⟨rest, hperm⟩ := hsub.exists_perm_append
  refine ⟨map ((key, null) :: common :: rest),
    same_map.mpr ⟨_, rfl, ?_, fun found hfound => ?_⟩, ?_⟩
  · simpa using hperm.length_eq
  · rcases List.mem_cons.mp (hperm.mem_iff.mp hfound) with rfl | hfound
    · exact ⟨common, by simp, hcommon⟩
    rcases List.mem_cons.mp hfound with rfl | hfound
    · exact ⟨common, by simp, hcommon'⟩
    · have hrest : found ∈ rest := hfound
      exact ⟨found, List.mem_cons_of_mem _ (List.mem_cons_of_mem _ hrest), .refl found⟩
  · exact mem_parts_map.mpr ⟨(key, null), by simp, .inl rfl⟩

theorem exists_fresh (vs : List Value) : ∃ t, ∀ v ∈ vs, ¬same t v = true := by
  obtain ⟨s, hs⟩ := Infinite.exists_notMem_finset (vs.filterMap toString?).toFinset
  refine ⟨string s, fun v hv hsame => hs ?_⟩
  cases v with
  | string s' =>
    have heq : s = s' := by simpa [same] using hsame
    rw [List.mem_toFinset, List.mem_filterMap]
    exact ⟨string s', hv, congrArg some heq.symm⟩
  | _ => simp [same] at hsame

/-- A value that is not separated equals one that equals none of finitely many others. -/
theorem exists_same_not_same {a : Value} (h : ¬a.Separated) (others : List Value) :
    ∃ b, same a b = true ∧ ∀ v ∈ others, ¬same b v = true := by
  induction a using induction_parts generalizing others with
  | h a ih =>
    -- a part of an equal value that equals no part of the others tells it from them
    have hpart : ∃ t b, (∀ y ∈ others.flatMap parts, ¬same t y = true) ∧ same a b = true ∧
        t ∈ b.parts := by
      by_cases hparts : ∀ x ∈ a.parts, x.Separated
      · have hentries : ¬a.entries.Pairwise fun e e' => ¬Overlap e e' := fun hentries =>
          h ⟨hparts, hentries⟩
        obtain ⟨t, ht⟩ := exists_fresh (others.flatMap parts)
        cases a with
        | map entries =>
          obtain ⟨b, hb, hmem⟩ := exists_same_with_key hentries t
          exact ⟨t, b, ht, hb, hmem⟩
        | _ => exact absurd .nil hentries
      · push Not at hparts
        obtain ⟨x, hx, hseparated⟩ := hparts
        obtain ⟨t, hxt, ht⟩ := ih x hx hseparated (others.flatMap parts)
        obtain ⟨b, hb, hmem⟩ := exists_same_with_part hx hxt
        exact ⟨t, b, ht, hb, hmem⟩
    obtain ⟨t, b, ht, hb, hmem⟩ := hpart
    refine ⟨b, hb, fun v hv hbv => ?_⟩
    obtain ⟨y, hy, hty⟩ := exists_part_of_same hbv hmem
    exact ht y (List.mem_flatMap.mpr ⟨v, hv, hy⟩) hty

theorem string_separated (s : String) : (string s).Separated := ⟨by simp [parts], .nil⟩

theorem ofStringMap_separated {m : Std.TreeMap String Value Ord.compare}
    (h : ∀ e ∈ m.toList, e.2.Separated) : (ofStringMap m).Separated := by
  refine ⟨fun x hx => ?_, List.pairwise_map.mpr (m.distinct_keys_toList.imp ?_)⟩
  · obtain ⟨_, hentry, hpart⟩ := mem_parts_map.mp hx
    obtain ⟨e, he, rfl⟩ := List.mem_map.mp hentry
    rcases hpart with rfl | rfl
    · exact string_separated e.1
    · exact h e he
  · rintro e e' hne ⟨⟨k, v⟩, ⟨hk, -⟩, hk', -⟩
    cases k with
    | string s =>
      have heq : e.1 = e'.1 := by simp_all [same]
      exact hne (heq ▸ Std.compare_self)
    | _ => simp [same] at hk

/-- A value is separated exactly if it equals from both sides whatever it equals from one. -/
theorem separated_iff_symm {a : Value} :
    a.Separated ↔ ∀ b, same a b = true → same b a = true := by
  refine ⟨fun ha _ => ha.symm, fun h => ?_⟩
  by_contra hseparated
  obtain ⟨b, hab, hba⟩ := exists_same_not_same hseparated [a]
  exact hba a List.mem_cons_self (h b hab)

end Value

namespace Placed

/-- Where an address has one record at each depth, equality is symmetric between separated values,
and a value equals from both sides whatever it equals from one exactly if it is separated. -/
theorem same_comm_iff_separated (a : Placed) :
    (∀ b, Coherent a b → a.contents.Separated → b.contents.Separated → a.same b = b.same a) ∧
      (a.contents.Separated ↔ ∀ b, Coherent a b → a.same b = true → b.same a = true) ∧
      ∀ m : Std.TreeMap String Value, a.contents = Value.ofStringMap m →
        (∀ e ∈ m.toList, e.2.Separated) → a.contents.Separated := by
  refine ⟨fun b h ha hb => ?_, ⟨fun ha b h hab => ?_, fun h => ?_⟩,
    fun m ha hm => ha ▸ Value.ofStringMap_separated hm⟩
  · rw [h.same_eq, h.symm.same_eq]
    exact Bool.eq_iff_iff.mpr ⟨ha.symm, hb.symm⟩
  · rw [h.same_eq] at hab
    rw [h.symm.same_eq]
    exact ha.symm hab
  · -- what the contents equal can be put at addresses of its own
    refine Value.separated_iff_symm.mpr fun v hav => ?_
    obtain ⟨b, rfl, hcoherent⟩ := exists_coherent a v
    rw [← hcoherent.same_eq] at hav
    rw [← hcoherent.symm.same_eq]
    exact h b hcoherent hav

/-- Twice the same entry is found in one entry of a map with another one beside it. -/
theorem same_not_symmetric :
    let twice := map [(bool true, null), (bool true, null)]
    let once := map [(bool true, null), (bool false, null)]
    same twice once = true ∧ same once twice = false := by
  decide

end Placed

end RecordQuery
