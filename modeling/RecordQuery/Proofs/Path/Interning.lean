import RecordQuery.Proofs.Path.Growth

/-!
# One object for each text

A registry asked for texts one after another hands out one path object for each text that reads as a
path: the same one whenever the text is asked for again, and another one for another text. It holds
as many objects as different texts of paths were asked for. A text that is no path changes nothing.
-/

namespace RecordQuery

instance : DecidablePred IsPath := fun _ => decidable_of_iff _ PropertyPath.exists_parse_iff.symm

namespace PathRegistry

/-- Asks for texts one after another, also past failures. -/
def internAll (texts : List String) :
    StateM PathRegistry (List (Except QueryError SharedPath)) :=
  texts.mapM fun text => (intern text).run

theorem internAll_run_cons (text : String) (texts : List String) (g : PathRegistry) :
    (internAll (text :: texts)).run g =
      (((intern text).run.run g).1 :: ((internAll texts).run ((intern text).run.run g).2).1,
        ((internAll texts).run ((intern text).run.run g).2).2) := by
  unfold internAll
  rw [List.mapM_cons]
  rfl

theorem intern_of_not_isPath {text : String} (h : ¬IsPath text) (g : PathRegistry) :
    (intern text).run.run g = (.error (.invalidPath text), g) := by
  have hparse : PropertyPath.parse text = .error (.invalidPath text) := by
    rcases PropertyPath.parse_cases text with hpath | ⟨hparse, -⟩
    · exact absurd hpath h
    · exact hparse
  rw [intern_run]
  cases hfind : g.find? text with
  | none => rw [hparse]
  | some p =>
    have hdotted := p.path.parse_dotted
    rw [dotted_of_find? hfind] at hdotted
    exact absurd ⟨p.path, hdotted⟩ h

/-! ## Handles -/

/-- Objects are told apart by their handles, and the next handle is new. -/
structure HandlesApart (g : PathRegistry) : Prop where
  nodup : (g.paths.map SharedPath.handle).Nodup
  lt_next : ∀ p ∈ g.paths, p.handle < g.memory.next

theorem HandlesApart.intern {g : PathRegistry} (h : g.HandlesApart) (text : String) :
    ((intern text).run.run g).2.HandlesApart := by
  rw [intern_run]
  cases g.find? text with
  | some p => exact h
  | none =>
    cases PropertyPath.parse text with
    | error e => exact h
    | ok path =>
      refine ⟨?_, fun p hp => ?_⟩
      · rw [List.map_append, List.map_singleton]
        refine List.nodup_append'.mpr ⟨h.nodup, List.nodup_singleton _, fun handle hold hnew => ?_⟩
        obtain ⟨p, hp, rfl⟩ := List.mem_map.mp hold
        have hlt := h.lt_next p hp
        have heq : p.handle = g.memory.next := List.mem_singleton.mp hnew
        omega
      · have hnext : (g.memory.create path).2.next = g.memory.next + 1 := rfl
        rw [hnext]
        rcases List.mem_append.mp hp with hp | hp
        · have hlt := h.lt_next p hp
          omega
        · have heq : p.handle = g.memory.next := by
            rw [List.mem_singleton.mp hp]
            rfl
          omega

theorem HandlesApart.internAll {g : PathRegistry} (h : g.HandlesApart) (texts : List String) :
    ((internAll texts).run g).2.HandlesApart := by
  induction texts generalizing g with
  | nil => exact h
  | cons text texts ih =>
    rw [internAll_run_cons]
    exact ih (h.intern text)

/-! ## Runs -/

/-- What a request gives: the object that the registry has for the text, or the error. -/
def Answers (g : PathRegistry) (text : String) (result : Except QueryError SharedPath) : Prop :=
  (IsPath text ∧ ∃ p, result = .ok p ∧ g.find? text = some p) ∨
    (¬IsPath text ∧ result = .error (.invalidPath text))

theorem Answers.mono {g g' : PathRegistry} {text : String} {result : Except QueryError SharedPath}
    (h : g.Answers text result) (hext : g.Extends g') : g'.Answers text result := by
  rcases h with ⟨hpath, p, hresult, hfind⟩ | herror
  · exact .inl ⟨hpath, p, hresult, hext text p hfind⟩
  · exact .inr herror

theorem intern_answers (text : String) (g : PathRegistry) :
    ((intern text).run.run g).2.Answers text ((intern text).run.run g).1 := by
  rcases intern_result text g with ⟨p, hresult, hpath⟩ | ⟨hresult, hinvalid⟩
  · have hran : (intern text).run.run g = (.ok p, ((intern text).run.run g).2) :=
      Prod.ext hresult rfl
    exact .inl ⟨hpath, p, hresult, (extends_of_intern hran).2⟩
  · exact .inr ⟨hinvalid, hresult⟩

theorem internAll_grows (texts : List String) (g : PathRegistry) :
    Grows (fun text => text ∈ texts ∧ IsPath text) g ((internAll texts).run g).2 := by
  induction texts generalizing g with
  | nil => exact .of_known fun text h => absurd h.1 List.not_mem_nil
  | cons text texts ih =>
    rw [internAll_run_cons]
    refine ((intern_grows text g).trans (ih _)).congr fun other => ?_
    rw [List.mem_cons]
    constructor
    · rintro (⟨rfl, hpath⟩ | ⟨hmem, hpath⟩)
      · exact ⟨.inl rfl, hpath⟩
      · exact ⟨.inr hmem, hpath⟩
    · rintro ⟨rfl | hmem, hpath⟩
      · exact .inl ⟨rfl, hpath⟩
      · exact .inr ⟨hmem, hpath⟩

/-- What was handed out is still what the registry has in the end. -/
theorem internAll_answers (texts : List String) (g : PathRegistry) :
    List.Forall₂ ((internAll texts).run g).2.Answers texts ((internAll texts).run g).1 := by
  induction texts generalizing g with
  | nil => exact .nil
  | cons text texts ih =>
    rw [internAll_run_cons]
    exact .cons ((intern_answers text g).mono (.of_grows (internAll_grows texts _))) (ih _)

section

variable {g : PathRegistry} {texts : List String} {results : List (Except QueryError SharedPath)}
  {i : Nat}

theorem exists_answer (h : List.Forall₂ g.Answers texts results) {text : String}
    (hi : texts[i]? = some text) : ∃ result, results[i]? = some result ∧ g.Answers text result := by
  obtain ⟨hlt, rfl⟩ := List.getElem?_eq_some_iff.mp hi
  have hlt' : i < results.length := h.length_eq ▸ hlt
  exact ⟨results[i], List.getElem?_eq_getElem hlt', (List.forall₂_iff_get.mp h).2 i hlt hlt'⟩

theorem exists_request (h : List.Forall₂ g.Answers texts results) {p : SharedPath}
    (hi : results[i]? = some (.ok p)) :
    ∃ text, texts[i]? = some text ∧ g.find? text = some p := by
  obtain ⟨hlt, -⟩ := List.getElem?_eq_some_iff.mp hi
  have hlt' : i < texts.length := h.length_eq ▸ hlt
  have htext : texts[i]? = some texts[i] := List.getElem?_eq_getElem hlt'
  obtain ⟨result, hresult, ⟨-, q, rfl, hfind⟩ | ⟨-, rfl⟩⟩ := exists_answer h htext
  · cases hi.symm.trans hresult
    exact ⟨_, htext, hfind⟩
  · cases hi.symm.trans hresult

end

/-! ## New registries -/

section

variable {m : SlotMemory} {texts : List String}

theorem handlesApart_of_new : HandlesApart ⟨[], m⟩ := ⟨.nil, fun _ hp => absurd hp List.not_mem_nil⟩

theorem texts_perm : ((internAll texts).run ⟨[], m⟩).2.texts.Perm
    (texts.filter fun text => IsPath text).dedup := by
  have hgrows := internAll_grows texts ⟨[], m⟩
  refine (List.perm_ext_iff_of_nodup (hgrows.nodup_texts .nil) (List.nodup_dedup _)).mpr ?_
  intro text
  rw [hgrows.mem_texts_iff]
  simp [PathRegistry.texts]

theorem size_eq_length_texts (g : PathRegistry) : g.size = g.texts.length := by
  rw [size, PathRegistry.texts, List.length_map]

theorem isEmpty_iff {g : PathRegistry} : g.isEmpty = true ↔ g.size = 0 := by
  rw [isEmpty, size, List.isEmpty_iff, List.length_eq_zero_iff]

theorem HandlesApart.handle_eq_iff {g : PathRegistry} (h : g.HandlesApart) {text text' : String}
    {p q : SharedPath} (hp : g.find? text = some p) (hq : g.find? text' = some q) :
    (p.handle = q.handle ↔ text = text') ∧ (p = q ↔ text = text') := by
  have hsame (hhandle : p.handle = q.handle) : p = q :=
    List.inj_on_of_nodup_map h.nodup (List.mem_of_find?_eq_some hp) (List.mem_of_find?_eq_some hq)
      hhandle
  have htext (heq : p = q) : text = text' := by
    rw [← dotted_of_find? hp, heq, dotted_of_find? hq]
  have hobject (heq : text = text') : p = q := by
    rw [heq, hq] at hp
    exact (Option.some.inj hp).symm
  exact ⟨⟨fun hhandle => htext (hsame hhandle), fun heq => congrArg _ (hobject heq)⟩,
    htext, hobject⟩

end

/-- Two objects handed out for texts are one exactly if the texts are. A text that is no path is
refused without a trace. -/
theorem intern_shares_by_text (m : SlotMemory) (texts : List String) :
    let results := ((internAll texts).run ⟨[], m⟩).1
    let g := ((internAll texts).run ⟨[], m⟩).2
    let paths := (texts.filter fun text => IsPath text).dedup
    (results.length = texts.length ∧ ∀ (i : Nat) text, texts[i]? = some text →
      (IsPath text → ∃ p, results[i]? = some (.ok p) ∧ p.dotted = text) ∧
      (¬IsPath text → results[i]? = some (.error (.invalidPath text)))) ∧
    (∀ (i j : Nat) p q, results[i]? = some (.ok p) → results[j]? = some (.ok q) →
      (p.handle = q.handle ↔ texts[i]? = texts[j]?) ∧ (p = q ↔ texts[i]? = texts[j]?)) ∧
    (g.size = paths.length ∧ (g.isEmpty = true ↔ paths.length = 0) ∧
      g.memory.objects = m.objects) ∧
    ∀ (text : String) (g : PathRegistry), ¬IsPath text →
      (intern text).run.run g = (.error (.invalidPath text), g) := by
  intro results g paths
  have hanswers : List.Forall₂ g.Answers texts results := internAll_answers texts ⟨[], m⟩
  have hsize : g.size = paths.length := by
    rw [size_eq_length_texts]
    exact texts_perm.length_eq
  refine ⟨⟨hanswers.length_eq.symm, fun i text hi => ?_⟩, fun i j p q hp hq => ?_, ⟨hsize, ?_, ?_⟩,
    fun text g h => intern_of_not_isPath h g⟩
  · obtain ⟨result, hresult, ⟨hpath, p, rfl, hfind⟩ | ⟨hinvalid, rfl⟩⟩ := exists_answer hanswers hi
    · exact ⟨fun _ => ⟨p, hresult, dotted_of_find? hfind⟩, fun h => absurd hpath h⟩
    · exact ⟨fun h => absurd h hinvalid, fun _ => hresult⟩
  · obtain ⟨text, htext, hfindp⟩ := exists_request hanswers hp
    obtain ⟨text', htext', hfindq⟩ := exists_request hanswers hq
    rw [htext, htext', Option.some_inj]
    exact (handlesApart_of_new.internAll texts).handle_eq_iff hfindp hfindq
  · rw [isEmpty_iff, hsize]
  · exact (internAll_grows texts ⟨[], m⟩).objects

/-- A text asked for twice, with one that is no path and another path between. -/
theorem intern_shares_by_text_repeated :
    let run := (internAll ["a.b", "a..b", "name", "a.b"]).run .empty
    run.1[1]? = some (.error (.invalidPath "a..b")) ∧ run.2.size = 2 ∧
      ∃ p q : SharedPath, run.1[0]? = some (.ok p) ∧ run.1[2]? = some (.ok q) ∧
        run.1[3]? = some (.ok p) ∧ p ≠ q := by
  intro run
  obtain ⟨⟨-, hanswer⟩, hsame, ⟨hsize, -, -⟩, -⟩ :=
    intern_shares_by_text .empty ["a.b", "a..b", "name", "a.b"]
  obtain ⟨p, hp, -⟩ := (hanswer 0 _ rfl).1 (by decide +kernel)
  obtain ⟨q, hq, -⟩ := (hanswer 2 _ rfl).1 (by decide +kernel)
  obtain ⟨p', hp', -⟩ := (hanswer 3 _ rfl).1 (by decide +kernel)
  obtain rfl : p = p' := (hsame 0 3 p p' hp hp').2.mpr rfl
  refine ⟨(hanswer 1 _ rfl).2 (by decide +kernel), hsize.trans (by decide +kernel), p, q, hp, hq,
    hp', fun heq => ?_⟩
  exact absurd ((hsame 0 2 p q hp hq).2.mp heq) (by decide)

end PathRegistry

end RecordQuery
