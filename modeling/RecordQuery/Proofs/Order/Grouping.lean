import RecordQuery.Proofs.Order.Preorder

/-!
# Groups of ties

A sorted list falls into groups: in each one the items are tied, and from one to the next they
ascend. A stable sort by the opposite relation makes the same groups of a list, in opposite order.
-/

namespace RecordQuery

variable {α : Type} {le : α → α → Bool} {P : α → Prop}

/-- What has a property stands in front where nothing that has it follows anything that has not. -/
theorem filter_append_filter_not {p : α → Bool} {l : List α}
    (h : l.Pairwise fun a b => p b = true → p a = true) :
    l.filter p ++ l.filter (!p ·) = l := by
  induction l with
  | nil => rfl
  | cons a l ih =>
    obtain ⟨ha, hl⟩ := List.pairwise_cons.mp h
    by_cases hpa : p a = true
    · rw [List.filter_cons_of_pos hpa, List.filter_cons_of_neg (by simp [hpa]), List.cons_append,
        ih hl]
    · have hnone : l.filter p = [] := List.filter_eq_nil_iff.mpr fun b hb hpb => hpa (ha b hb hpb)
      have hrest := ih hl
      rw [hnone, List.nil_append] at hrest
      rw [List.filter_cons_of_neg hpa, List.filter_cons_of_pos (by simp [hpa]), hnone, hrest,
        List.nil_append]

/-- Groups of items that are tied in each group and ascend from group to group. -/
structure Grouped (le : α → α → Bool) (groups : List (List α)) : Prop where
  within : ∀ g ∈ groups, ∀ a ∈ g, ∀ b ∈ g, le a b = true
  between : groups.Pairwise fun g h => ∀ a ∈ g, ∀ b ∈ h, le a b = true ∧ le b a = false

namespace Grouped

variable {groups : List (List α)} {g : List α} {z : α}

theorem pairwise (h : Grouped le groups) : groups.flatten.Pairwise (le · ·) :=
  List.pairwise_flatten.mpr
    ⟨fun g hg => List.pairwise_of_forall_mem_list (h.within g hg),
      h.between.imp fun hgh a ha b hb => (hgh a ha b hb).1⟩

theorem reverse (h : Grouped le groups) : Grouped (fun a b => le b a) groups.reverse :=
  ⟨fun g hg a ha b hb => h.within g (List.mem_reverse.mp hg) b hb a ha,
    List.pairwise_reverse.mpr (h.between.imp fun hgh a ha b hb => hgh b hb a ha)⟩

theorem filter_tied (h : Grouped le groups) (hg : g ∈ groups) (hz : z ∈ g) :
    groups.flatten.filter (tied le z) = g := by
  obtain ⟨before, after, rfl⟩ := List.append_of_mem hg
  obtain ⟨-, hbehind, hahead⟩ := List.pairwise_append.mp h.between
  have hself : g.filter (tied le z) = g := by
    refine List.filter_eq_self.mpr fun b hb => ?_
    rw [tied, h.within g hg z hz b hb, h.within g hg b hb z hz, Bool.and_self]
  have hbefore : before.flatten.filter (tied le z) = [] := by
    refine List.filter_eq_nil_iff.mpr fun b hb => ?_
    obtain ⟨g', hg', hb⟩ := List.mem_flatten.mp hb
    rw [tied, (hahead g' hg' g List.mem_cons_self b hb z hz).2]
    simp
  have hafter : after.flatten.filter (tied le z) = [] := by
    refine List.filter_eq_nil_iff.mpr fun b hb => ?_
    obtain ⟨g', hg', hb⟩ := List.mem_flatten.mp hb
    rw [tied, (List.rel_of_pairwise_cons hbehind hg' z hz b hb).2]
    simp
  rw [List.flatten_append, List.flatten_cons, List.filter_append, List.filter_append, hbefore,
    hself, hafter, List.nil_append, List.append_nil]

theorem cons_alone (h : Grouped le groups) {a : α} (hself : le a a = true)
    (hbelow : ∀ b ∈ groups.flatten, le a b = true ∧ le b a = false) :
    Grouped le ([a] :: groups) := by
  refine ⟨?_, List.pairwise_cons.mpr ⟨fun g hg => ?_, h.between⟩⟩
  · rw [List.forall_mem_cons]
    exact ⟨by simpa using hself, h.within⟩
  · rw [List.forall_mem_singleton]
    exact fun b hb => hbelow b (List.mem_flatten.mpr ⟨g, hg, hb⟩)

theorem cons_joined (hpre : PreorderOn le P) (h : Grouped le (g :: groups)) {a : α} (ha : P a)
    (hP : ∀ b ∈ (g :: groups).flatten, P b) (hz : z ∈ g) (haz : le a z = true)
    (hza : le z a = true) : Grouped le ((a :: g) :: groups) := by
  obtain ⟨hnext, hrest⟩ := List.pairwise_cons.mp h.between
  have hmem {b : α} (hb : b ∈ g) : P b := hP b (List.mem_append_left _ hb)
  have hmem' {g' : List α} (hg' : g' ∈ groups) {b : α} (hb : b ∈ g') : P b :=
    hP b (List.mem_append_right _ (List.mem_flatten.mpr ⟨g', hg', hb⟩))
  have htied {b : α} (hb : b ∈ g) : le a b = true ∧ le b a = true :=
    ⟨hpre.trans ha (hmem hz) (hmem hb) haz (h.within g List.mem_cons_self z hz b hb),
      hpre.trans (hmem hb) (hmem hz) ha (h.within g List.mem_cons_self b hb z hz) hza⟩
  refine ⟨?_, List.pairwise_cons.mpr ⟨fun g' hg' => ?_, hrest⟩⟩
  · simp only [List.forall_mem_cons]
    exact ⟨⟨⟨hpre.refl ha, fun b hb => (htied hb).1⟩,
        fun b hb => ⟨(htied hb).2, h.within g List.mem_cons_self b hb⟩⟩,
      fun g' hg' => h.within g' (List.mem_cons_of_mem g hg')⟩
  · rw [List.forall_mem_cons]
    refine ⟨fun b hb => ?_, hnext g' hg'⟩
    obtain ⟨hzb, hbz⟩ := hnext g' hg' z hz b hb
    refine ⟨hpre.trans ha (hmem hz) (hmem' hg' hb) haz hzb, Bool.eq_false_iff.mpr fun hba => ?_⟩
    -- what is not above the item would not be above its group
    rw [hpre.trans (hmem' hg' hb) ha (hmem hz) hba haz] at hbz
    cases hbz

/-- An item below all others joins the first group if that is tied with it, and else makes a group
of its own. -/
theorem exists_cons (hpre : PreorderOn le P) (h : Grouped le groups) {a : α} (ha : P a)
    (hP : ∀ b ∈ groups.flatten, P b) (hle : ∀ b ∈ groups.flatten, le a b = true)
    (hne : [] ∉ groups) :
    ∃ groups', groups'.flatten = a :: groups.flatten ∧ [] ∉ groups' ∧ Grouped le groups' := by
  cases groups with
  | nil => exact ⟨[[a]], rfl, by simp, h.cons_alone (hpre.refl ha) (List.forall_mem_nil _)⟩
  | cons g groups =>
    obtain ⟨hnil, hrest⟩ := not_or.mp (mt List.mem_cons.mpr hne)
    obtain ⟨z, hz⟩ := List.exists_mem_of_ne_nil g (Ne.symm hnil)
    have hmem : z ∈ (g :: groups).flatten := List.mem_append_left _ hz
    by_cases hza : le z a = true
    · exact ⟨(a :: g) :: groups, rfl, by simp [hrest],
        cons_joined hpre h ha hP hz (hle z hmem) hza⟩
    · refine ⟨[a] :: g :: groups, rfl, by simp [hrest, hnil],
        h.cons_alone (hpre.refl ha) fun b hb => ⟨hle b hb, Bool.eq_false_iff.mpr fun hba => hza ?_⟩⟩
      have hzb : le z b = true := by
        obtain ⟨g', hg', hb'⟩ := List.mem_flatten.mp hb
        rcases List.mem_cons.mp hg' with rfl | hg'
        · exact h.within g' List.mem_cons_self z hz b hb'
        · exact (List.rel_of_pairwise_cons h.between hg' z hz b hb').1
      exact hpre.trans (hP z hmem) (hP b hb) ha hzb hba

theorem exists_of_pairwise (h : PreorderOn le P) {l : List α} (hl : ∀ a ∈ l, P a)
    (hsorted : l.Pairwise (le · ·)) :
    ∃ groups, groups.flatten = l ∧ [] ∉ groups ∧ Grouped le groups := by
  induction l with
  | nil => exact ⟨[], rfl, List.not_mem_nil, List.forall_mem_nil _, .nil⟩
  | cons a l ih =>
    obtain ⟨ha, hl⟩ := List.forall_mem_cons.mp hl
    obtain ⟨hle, hsorted⟩ := List.pairwise_cons.mp hsorted
    obtain ⟨groups, rfl, hne, hgroups⟩ := ih hl hsorted
    exact hgroups.exists_cons h ha hl hle hne

end Grouped

theorem StablySorted.opposite {items : List α} {groups : List (List α)}
    (hs : StablySorted le items groups.flatten) (hgroups : Grouped le groups) :
    StablySorted (fun a b => le b a) items groups.reverse.flatten := by
  refine ⟨groups.reverse_perm.flatten.trans hs.perm, hgroups.reverse.pairwise, fun z hz => ?_⟩
  obtain ⟨g, hg, hzg⟩ := List.mem_flatten.mp (hs.perm.mem_iff.mpr hz)
  have hties := hs.ties z hz
  rw [hgroups.filter_tied hg hzg] at hties
  rw [hgroups.reverse.filter_tied (List.mem_reverse.mpr hg) hzg, tied_flip, hties]

end RecordQuery
