import AnswerSetLearning.Induction.Universe
import AnswerSetLearning.Proofs.Reader.Document
import AnswerSetLearning.Proofs.Solver.Engine

namespace AnswerSetLearning

open Solver (Engine)

/-- The numbers in the examples are not too large for the solver. -/
def Task.NumbersFit (t : Task) : Prop := ∀ l ∈ t.registry.literals, l.NumbersFit

section Derivation

variable {E : Engine} {rules : List Rule} {scenarios : List (LitSet × LitSet)}
  {registry registry' : Registry} {lits : List Lit}

theorem exists_of_derivedFrom_cons {input output : LitSet}
    (h : E.derivedFrom rules ((input, output) :: scenarios) registry = (.ok lits, registry')) :
    ∃ literals more, E.groundFacts rules input output registry = .ok literals ∧
      E.derivedFrom rules scenarios (registry.registerAll literals).2 = (.ok more, registry') ∧
      lits = (registry.registerAll literals).1 ++ more := by
  rw [Engine.derivedFrom] at h
  split at h
  · cases h
  · next literals hliterals =>
    dsimp only at h
    split at h
    · next more _ hmore =>
      cases h
      exact ⟨literals, more, hliterals, hmore, rfl⟩
    · cases h

theorem derivedFrom_extends
    (h : E.derivedFrom rules scenarios registry = (.ok lits, registry')) :
    registry.Extends registry' := by
  induction scenarios generalizing registry lits with
  | nil =>
    cases h
    exact .refl _
  | cons p scenarios ih =>
    obtain ⟨literals, more, -, hmore, -⟩ := exists_of_derivedFrom_cons h
    exact (Registry.registerAll_extends registry literals).trans (ih hmore)

theorem wellFormed_derivedFrom (hr : registry.WellFormed)
    (h : E.derivedFrom rules scenarios registry = (.ok lits, registry')) :
    registry'.WellFormed := by
  induction scenarios generalizing registry lits with
  | nil =>
    cases h
    exact hr
  | cons p scenarios ih =>
    obtain ⟨literals, more, -, hmore, -⟩ := exists_of_derivedFrom_cons h
    exact ih (hr.registerAll literals) hmore

theorem registers_derivedFrom (hr : registry.WellFormed)
    (h : E.derivedFrom rules scenarios registry = (.ok lits, registry')) :
    ∀ i ∈ lits, ∃ l, registry'.get? i = some l := by
  induction scenarios generalizing registry lits with
  | nil =>
    cases h
    simp
  | cons p scenarios ih =>
    obtain ⟨literals, more, -, hmore, rfl⟩ := exists_of_derivedFrom_cons h
    intro i hi
    cases List.mem_append.1 hi with
    | inl hi =>
      obtain ⟨l, -, hl⟩ := (Registry.mem_registerAll_iff hr).1 hi
      exact ⟨l, derivedFrom_extends hmore hl⟩
    | inr hi => exact ih (hr.registerAll literals) hmore i hi

theorem mem_derivedFrom (hE : E.KeepsFacts) (hr : registry.WellFormed)
    (hreadable : ∀ p ∈ scenarios, ∀ s ∈ [p.1, p.2], registry.Registers s ∧
      ∀ l ∈ registry.denote s, l.WellSpelled ∧ l.NumbersFit)
    (h : E.derivedFrom rules scenarios registry = (.ok lits, registry')) :
    ∀ p ∈ scenarios, ∀ s ∈ [p.1, p.2], ∀ i ∈ s, i ∈ lits := by
  induction scenarios generalizing registry lits with
  | nil => simp
  | cons q scenarios ih =>
    obtain ⟨literals, more, hliterals, hmore, rfl⟩ := exists_of_derivedFrom_cons h
    have hext := Registry.registerAll_extends registry literals
    intro p hp s hs i hi
    rw [List.mem_append]
    cases List.mem_cons.1 hp with
    | inl hp =>
      left
      subst hp
      obtain ⟨hregisters, hplain⟩ := hreadable p List.mem_cons_self s hs
      obtain ⟨l, hl⟩ := hregisters i hi
      obtain ⟨hspelled, hfits⟩ := hplain l ⟨i, hi, hl⟩
      have hmem := hE.mem_groundFacts hliterals hs ⟨i, hi, hl⟩ hspelled hfits
      exact (Registry.mem_registerAll_iff hr).2 ⟨l, hmem, hext hl⟩
    | inr hp =>
      right
      refine ih (hr.registerAll literals) (fun p hp s hs => ?_) hmore p hp s hs i hi
      obtain ⟨hregisters, hplain⟩ := hreadable p (List.mem_cons_of_mem q hp) s hs
      rw [Registry.denote_of_extends hregisters hext]
      exact ⟨hregisters.mono hext, hplain⟩

end Derivation

section Universe

variable {E : Engine} {t : Task} {univ : LitSet} {registry : Registry}

theorem exists_of_computeUniverse (h : E.computeUniverse t = (.ok univ, registry)) :
    ∃ lits, E.derivedFrom t.background t.scenarios t.registry = (.ok lits, registry) ∧
      univ = .ofList lits := by
  unfold Engine.computeUniverse at h
  split at h
  · next lits _ hlits =>
    cases h
    exact ⟨lits, hlits, rfl⟩
  · cases h

theorem computeUniverse_extends (h : E.computeUniverse t = (.ok univ, registry)) :
    t.registry.Extends registry := by
  obtain ⟨lits, hlits, -⟩ := exists_of_computeUniverse h
  exact derivedFrom_extends hlits

theorem wellFormed_computeUniverse (hr : t.registry.WellFormed)
    (h : E.computeUniverse t = (.ok univ, registry)) : registry.WellFormed := by
  obtain ⟨lits, hlits, -⟩ := exists_of_computeUniverse h
  exact wellFormed_derivedFrom hr hlits

theorem normal_computeUniverse (h : E.computeUniverse t = (.ok univ, registry)) : univ.Normal := by
  obtain ⟨lits, -, rfl⟩ := exists_of_computeUniverse h
  exact SortedSet.normal_ofList lits

theorem registers_computeUniverse (hr : t.registry.WellFormed)
    (h : E.computeUniverse t = (.ok univ, registry)) : registry.Registers univ := by
  obtain ⟨lits, hlits, rfl⟩ := exists_of_computeUniverse h
  intro i hi
  exact registers_derivedFrom hr hlits i (SortedSet.mem_ofList.1 hi)

theorem Task.WellFormed.readable (ht : t.WellFormed) (hfits : t.NumbersFit) (s : LitSet) :
    ∀ l ∈ t.registry.denote s, l.WellSpelled ∧ l.NumbersFit := by
  rintro l ⟨i, -, hl⟩
  have hmem := Registry.mem_literals_iff.2 ⟨i, hl⟩
  exact ⟨ht.literals l hmem, hfits l hmem⟩

/-- The universe holds the input of an example with each of its outputs. -/
theorem subset_computeUniverse (hE : E.KeepsFacts) (ht : t.WellFormed) (hfits : t.NumbersFit)
    (h : E.computeUniverse t = (.ok univ, registry)) {e : Example} (he : e ∈ t.examples)
    {s : LitSet} (hs : s ∈ e.outputs) : e.input ⊆ univ ∧ s ⊆ univ := by
  obtain ⟨lits, hlits, rfl⟩ := exists_of_computeUniverse h
  have hreadable : ∀ p ∈ t.scenarios, ∀ s ∈ [p.1, p.2], t.registry.Registers s ∧
      ∀ l ∈ t.registry.denote s, l.WellSpelled ∧ l.NumbersFit := by
    intro p hp s hs
    obtain ⟨e, he, hp⟩ := List.mem_flatMap.1 hp
    obtain ⟨o, ho, rfl⟩ := List.mem_map.1 hp
    refine ⟨?_, ht.readable hfits s⟩
    rcases List.mem_cons.1 hs with rfl | hs
    · exact (ht.examples e he).registers_input
    · exact List.mem_singleton.1 hs ▸ (ht.examples e he).registers_outputs o ho
  have hscenario : (e.input, s) ∈ t.scenarios :=
    List.mem_flatMap.2 ⟨e, he, List.mem_map_of_mem hs⟩
  have hmem := mem_derivedFrom hE ht.registry hreadable hlits _ hscenario
  constructor
  · exact fun i hi => SortedSet.mem_ofList.2 (hmem e.input (by simp) i hi)
  · exact fun i hi => SortedSet.mem_ofList.2 (hmem s (by simp) i hi)

end Universe

end AnswerSetLearning
