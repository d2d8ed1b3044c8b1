import Mathlib

/-!
# Stable sorts

What a stable sort makes of a list, for a relation that is a total preorder on the items at hand
only. The result is unique, so every stable sort is the one of the library, and filtering before
and after it comes to the same.
-/

namespace RecordQuery

variable {α : Type}

/-- Neither item stands above the other. -/
def tied (le : α → α → Bool) (a b : α) : Bool := le a b && le b a

theorem tied_flip (le : α → α → Bool) (a : α) : tied (fun a b => le b a) a = tied le a :=
  funext fun _ => Bool.and_comm _ _

/-- The relation is a total preorder on the items with a property. -/
structure PreorderOn (le : α → α → Bool) (P : α → Prop) : Prop where
  total : ∀ {a b}, P a → P b → le a b = true ∨ le b a = true
  trans : ∀ {a b c}, P a → P b → P c → le a b = true → le b c = true → le a c = true

/-- The items in order, tied ones as they stood. -/
structure StablySorted (le : α → α → Bool) (items sorted : List α) : Prop where
  perm : sorted.Perm items
  pairwise : sorted.Pairwise (le · ·)
  ties : ∀ z ∈ items, sorted.filter (tied le z) = items.filter (tied le z)

namespace PreorderOn

variable {le : α → α → Bool} {P : α → Prop}

theorem refl (h : PreorderOn le P) {a : α} (ha : P a) : le a a = true := (h.total ha ha).elim id id

theorem tied_self (h : PreorderOn le P) {a : α} (ha : P a) : tied le a a = true := by
  rw [tied, h.refl ha, Bool.and_self]

theorem tied_congr (h : PreorderOn le P) {a b c : α} (ha : P a) (hb : P b) (hc : P c)
    (hab : tied le a b = true) : tied le a c = tied le b c := by
  simp only [tied, Bool.and_eq_true] at hab
  rw [Bool.eq_iff_iff]
  simp only [tied, Bool.and_eq_true]
  constructor
  · rintro ⟨hac, hca⟩
    exact ⟨h.trans hb ha hc hab.2 hac, h.trans hc ha hb hca hab.1⟩
  · rintro ⟨hbc, hcb⟩
    exact ⟨h.trans ha hb hc hab.1 hbc, h.trans hc hb ha hcb hab.2⟩

theorem flip (h : PreorderOn le P) : PreorderOn (fun a b => le b a) P :=
  ⟨fun ha hb => h.total hb ha, fun ha hb hc hab hbc => h.trans hc hb ha hbc hab⟩

theorem mono {Q : α → Prop} (h : PreorderOn le P) (hPQ : ∀ a, Q a → P a) : PreorderOn le Q :=
  ⟨fun ha hb => h.total (hPQ _ ha) (hPQ _ hb),
    fun ha hb hc => h.trans (hPQ _ ha) (hPQ _ hb) (hPQ _ hc)⟩

theorem le_of_mem_cons (h : PreorderOn le P) {a b : α} (ha : P a) {t : List α}
    (hsorted : (a :: t).Pairwise (le · ·)) (hb : b ∈ a :: t) : le a b = true := by
  rcases List.mem_cons.mp hb with rfl | hb
  · exact h.refl ha
  · exact List.rel_of_pairwise_cons hsorted hb

theorem pairwise_cons_cons (h : PreorderOn le P) {a b : α} {t : List α} (ha : P a)
    (hl : ∀ x ∈ b :: t, P x) (hab : le a b = true) (hsorted : (b :: t).Pairwise (le · ·)) :
    (a :: b :: t).Pairwise (le · ·) := by
  have hb : P b := hl b List.mem_cons_self
  refine List.pairwise_cons.mpr ⟨fun x hx => ?_, hsorted⟩
  exact h.trans ha hb (hl x hx) hab (h.le_of_mem_cons hb hsorted hx)

theorem mem_filter_tied (h : PreorderOn le P) {a : α} (ha : P a) {l : List α} :
    a ∈ l.filter (tied le a) ↔ a ∈ l := by
  rw [List.mem_filter, h.tied_self ha]
  simp

/-- Sorted lists with the same ties are the same. -/
theorem eq_of_ties (h : PreorderOn le P) {l l' : List α} (hl : ∀ a ∈ l, P a) (hl' : ∀ a ∈ l', P a)
    (hsorted : l.Pairwise (le · ·)) (hsorted' : l'.Pairwise (le · ·))
    (hties : ∀ z, P z → l.filter (tied le z) = l'.filter (tied le z)) : l = l' := by
  induction l generalizing l' with
  | nil =>
    refine (List.eq_nil_iff_forall_not_mem.mpr fun b hb => ?_).symm
    have hmem := (h.mem_filter_tied (hl' b hb)).mpr hb
    rw [← hties b (hl' b hb)] at hmem
    cases hmem
  | cons a t ih =>
    obtain ⟨ha, ht⟩ := List.forall_mem_cons.mp hl
    have hfirst := hties a ha
    rw [List.filter_cons_of_pos (h.tied_self ha)] at hfirst
    have hmem : a ∈ l' := (h.mem_filter_tied ha).mp (hfirst ▸ List.mem_cons_self)
    cases l' with
    | nil => cases hmem
    | cons b t' =>
      obtain ⟨hb, ht'⟩ := List.forall_mem_cons.mp hl'
      have hmem' : b ∈ a :: t := by
        rw [← h.mem_filter_tied hb, hties b hb]
        exact (h.mem_filter_tied hb).mpr List.mem_cons_self
      -- each head occurs in the other list, so neither is above the other
      have htied : tied le a b = true := by
        rw [tied, h.le_of_mem_cons ha hsorted hmem', h.le_of_mem_cons hb hsorted' hmem,
          Bool.and_self]
      rw [List.filter_cons_of_pos htied] at hfirst
      obtain ⟨rfl, -⟩ := List.cons.inj hfirst
      refine congrArg (a :: ·) (ih ht ht' hsorted.of_cons hsorted'.of_cons fun z hz => ?_)
      have hz := hties z hz
      by_cases hza : tied le z a = true
      · rw [List.filter_cons_of_pos hza, List.filter_cons_of_pos hza] at hz
        exact (List.cons.inj hz).2
      · rw [List.filter_cons_of_neg hza, List.filter_cons_of_neg hza] at hz
        exact hz

end PreorderOn

namespace StablySorted

variable {le : α → α → Bool} {items sorted sorted' : List α}

theorem of_pairwise (h : items.Pairwise (le · ·)) : StablySorted le items items :=
  ⟨.refl _, h, fun _ _ => rfl⟩

theorem ties_of {P : α → Prop} (h : PreorderOn le P) (hitems : ∀ a ∈ items, P a)
    (hs : StablySorted le items sorted) {z : α} (hz : P z) :
    sorted.filter (tied le z) = items.filter (tied le z) := by
  by_cases hw : ∃ w ∈ items, tied le z w = true
  · obtain ⟨w, hw, hzw⟩ := hw
    have hsame : ∀ b ∈ items, tied le z b = tied le w b :=
      fun b hb => h.tied_congr hz (hitems w hw) (hitems b hb) hzw
    rw [List.filter_congr hsame, List.filter_congr fun b hb => hsame b (hs.perm.mem_iff.mp hb)]
    exact hs.ties w hw
  · have hnone : ∀ b ∈ items, ¬tied le z b = true := fun b hb htied => hw ⟨b, hb, htied⟩
    rw [List.filter_eq_nil_iff.mpr hnone,
      List.filter_eq_nil_iff.mpr fun b hb => hnone b (hs.perm.mem_iff.mp hb)]

theorem congr {le' : α → α → Bool} (h : ∀ a ∈ items, ∀ b ∈ items, le a b = le' a b)
    (hs : StablySorted le items sorted) :
    StablySorted le' items sorted := by
  have hmem {x : α} (hx : x ∈ sorted) : x ∈ items := hs.perm.mem_iff.mp hx
  refine ⟨hs.perm, hs.pairwise.imp_of_mem fun {a b} ha hb hab => ?_, fun z hz => ?_⟩
  · rwa [← h a (hmem ha) b (hmem hb)]
  · have htied : ∀ x ∈ items, tied le z x = tied le' z x := fun x hx => by
      rw [tied, tied, h z hz x hx, h x hx z hz]
    rw [← List.filter_congr htied, ← List.filter_congr fun x hx => htied x (hmem hx)]
    exact hs.ties z hz

theorem cons_trans {P : α → Prop} (h : PreorderOn le P) {x : α} (hx : P x)
    (hitems : ∀ a ∈ items, P a) (hs : StablySorted le items sorted)
    (hs' : StablySorted le (x :: sorted) sorted') : StablySorted le (x :: items) sorted' := by
  refine ⟨hs'.perm.trans (hs.perm.cons x), hs'.pairwise, fun z hz => ?_⟩
  have hPz : P z := List.forall_mem_cons.mpr ⟨hx, hitems⟩ z hz
  have hsorted : ∀ a ∈ x :: sorted, P a :=
    List.forall_mem_cons.mpr ⟨hx, fun a ha => hitems a (hs.perm.mem_iff.mp ha)⟩
  rw [hs'.ties_of h hsorted hPz, List.filter_cons, List.filter_cons, hs.ties_of h hitems hPz]

theorem cons_swap {P : α → Prop} (h : PreorderOn le P) {x y : α} (hx : P x)
    (hl : ∀ a ∈ y :: items, P a) (hxy : le x y = false) (hl' : (y :: items).Pairwise (le · ·))
    (hs : StablySorted le (x :: items) sorted) :
    StablySorted le (x :: y :: items) (y :: sorted) := by
  have hy : P y := hl y List.mem_cons_self
  have hitems : ∀ a ∈ x :: items, P a :=
    List.forall_mem_cons.mpr ⟨hx, fun a ha => hl a (List.mem_cons_of_mem y ha)⟩
  have hyx : le y x = true := by
    rcases h.total hy hx with hyx | hxy'
    · exact hyx
    · rw [hxy] at hxy'
      cases hxy'
  refine ⟨(hs.perm.cons y).trans (.swap x y items), ?_, fun z hz => ?_⟩
  · refine List.pairwise_cons.mpr ⟨fun b hb => ?_, hs.pairwise⟩
    rcases List.mem_cons.mp (hs.perm.mem_iff.mp hb) with rfl | hb
    · exact hyx
    · exact List.rel_of_pairwise_cons hl' hb
  · have hz : P z := List.forall_mem_cons.mpr ⟨hx, hl⟩ z hz
    have hties := hs.ties_of h hitems hz
    -- no item is tied with both, so the two may be exchanged in front of the ties
    have hone : tied le z x = true → ¬tied le z y = true := by
      simp only [tied, Bool.and_eq_true]
      rintro ⟨-, hxz⟩ ⟨hzy, -⟩
      rw [h.trans hx hz hy hxz hzy] at hxy
      cases hxy
    by_cases hzx : tied le z x = true
    · rw [List.filter_cons_of_neg (hone hzx), hties, List.filter_cons_of_pos hzx,
        List.filter_cons_of_pos hzx, List.filter_cons_of_neg (hone hzx)]
    · rw [List.filter_cons_of_neg hzx, List.filter_cons, List.filter_cons, hties,
        List.filter_cons_of_neg hzx]

theorem unique (h : PreorderOn le (· ∈ items)) (hs : StablySorted le items sorted)
    (hs' : StablySorted le items sorted') : sorted = sorted' :=
  h.eq_of_ties (fun _ => hs.perm.mem_iff.mp) (fun _ => hs'.perm.mem_iff.mp) hs.pairwise hs'.pairwise
    fun z hz => (hs.ties z hz).trans (hs'.ties z hz).symm

theorem filter (hs : StablySorted le items sorted) (p : α → Bool) :
    StablySorted le (items.filter p) (sorted.filter p) := by
  refine ⟨hs.perm.filter p, hs.pairwise.filter p, fun z hz => ?_⟩
  rw [List.filter_comm, hs.ties z (List.mem_filter.mp hz).1, List.filter_comm]

theorem reverse (hs : StablySorted (fun a b => le b a) items sorted) :
    StablySorted le items.reverse sorted.reverse := by
  have hperm := (List.reverse_perm sorted).trans (hs.perm.trans (List.reverse_perm items).symm)
  refine ⟨hperm, ?_, fun z hz => ?_⟩
  · rw [List.pairwise_reverse]
    exact hs.pairwise
  · have hties := hs.ties z (List.mem_reverse.mp hz)
    rw [tied_flip] at hties
    rw [List.filter_reverse, List.filter_reverse, hties]

theorem map {β : Type} {f : β → α} {l s : List β}
    (hs : StablySorted (fun a b => le (f a) (f b)) l s) : StablySorted le (l.map f) (s.map f) := by
  refine ⟨hs.perm.map f, List.pairwise_map.mpr hs.pairwise, fun z hz => ?_⟩
  obtain ⟨a, ha, rfl⟩ := List.mem_map.mp hz
  rw [List.filter_map, List.filter_map]
  exact congrArg (List.map f) (hs.ties a ha)

/-- Ties survive the merge sort of the library, as it keeps every sorted part of its input. -/
theorem mergeSort_of_global (h : PreorderOn le fun _ => True) (items : List α) :
    StablySorted le items (items.mergeSort le) := by
  have htrans : ∀ a b c, le a b = true → le b c = true → le a c = true :=
    fun a b c => h.trans trivial trivial trivial
  have htotal : ∀ a b, (le a b || le b a) = true := by
    intro a b
    simpa using h.total (a := a) (b := b) trivial trivial
  refine ⟨List.mergeSort_perm items le, List.pairwise_mergeSort htrans htotal items, fun z _ => ?_⟩
  have hclass : (items.filter (tied le z)).Pairwise (le · ·) := by
    refine List.pairwise_of_forall_mem_list fun a ha b hb => ?_
    have ha := (List.mem_filter.mp ha).2
    have hb := (List.mem_filter.mp hb).2
    simp only [tied, Bool.and_eq_true] at ha hb
    exact htrans a z b ha.2 hb.1
  have hkept := (List.sublist_mergeSort htrans htotal hclass List.filter_sublist).filter (tied le z)
  simp only [List.filter_filter, Bool.and_self] at hkept
  refine (hkept.eq_of_length ?_).symm
  exact ((List.mergeSort_perm items le).filter (tied le z)).length_eq.symm

theorem mergeSort (h : PreorderOn le (· ∈ items)) : StablySorted le items (items.mergeSort le) := by
  have hglobal : PreorderOn (fun a b : { x // x ∈ items } => le a.1 b.1) fun _ => True :=
    ⟨fun {a b} _ _ => h.total a.2 b.2, fun {a b c} _ _ _ => h.trans a.2 b.2 c.2⟩
  have hs := (mergeSort_of_global hglobal items.attach).map
  have hmap : (items.attach.mergeSort fun a b => le a.1 b.1).map Subtype.val =
      (items.attach.map Subtype.val).mergeSort le := List.map_mergeSort fun _ _ _ _ => rfl
  rwa [hmap, List.attach_map_subtype_val] at hs

theorem filter_mergeSort (h : PreorderOn le (· ∈ items)) (p : α → Bool) :
    (items.mergeSort le).filter p = (items.filter p).mergeSort le := by
  have hkept : PreorderOn le (· ∈ items.filter p) := h.mono fun _ ha => (List.mem_filter.mp ha).1
  exact unique hkept ((mergeSort h).filter p) (mergeSort hkept)

end StablySorted

end RecordQuery
