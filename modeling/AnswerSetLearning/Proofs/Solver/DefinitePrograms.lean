import AnswerSetLearning.Proofs.Solver.LeastModels
import AnswerSetLearning.Proofs.Solver.Program

namespace AnswerSetLearning

theorem Registry.denote_registerSet (r : Registry) (ls : List Literal) :
    (r.registerSet ls).2.denote (r.registerSet ls).1 = {l | l ∈ ls} := by
  have hforall := registerAll_forall₂ r ls
  ext l
  constructor
  · rintro ⟨i, hi, hl⟩
    obtain ⟨m, hm, hlookup⟩ := Solver.exists_of_forall₂ hforall.flip (SortedSet.mem_ofList.1 hi)
    cases (get?_of_lookup hlookup).symm.trans hl
    exact hm
  · intro hl
    obtain ⟨i, hi, hlookup⟩ := Solver.exists_of_forall₂ hforall hl
    exact ⟨i, SortedSet.mem_ofList.2 hi, get?_of_lookup hlookup⟩

namespace Solver

theorem Clause.isDefinite_of_ofRule? {r : Rule} (hr : r.isDefinite = true) {cs : List Clause}
    (h : ofRule? r = some cs) {c : Clause} (hc : c ∈ cs) : c.IsDefinite := by
  rcases of_ofRule? h hc with ⟨l, ps, p, -, -, -, -, rfl⟩ | ⟨head, -, hgrows⟩
  · rfl
  · have hbody : ∀ e ∈ r.body, e.isNegated = false := by
      simpa [Rule.isDefinite, Rule.negatedAtoms] using hr
    rw [IsDefinite, negative, List.map_eq_nil_iff, List.filter_eq_nil_iff]
    intro o ho
    rcases hgrows.atoms o ho with ho | ⟨l, hl, -⟩
    · cases ho
    · simpa [BodyElement.isNegated] using hbody _ hl

section Queries

variable {rules : List Rule} {facts : List LitSet} {registry : Registry} {clauses : List Clause}

theorem isDefinite_of_compile (hrules : ∀ r ∈ rules, r.isDefinite = true)
    (h : compile rules = .ok clauses) : ∀ c ∈ clauses, c.IsDefinite := by
  intro c hc
  obtain ⟨r, hr, cs, hcs, hc⟩ := ((of_compile h).2 c).1 hc
  exact Clause.isDefinite_of_ofRule? (hrules r hr) hcs hc

theorem isDefinite_of_compileProgram (hrules : ∀ r ∈ rules, r.isDefinite = true)
    (h : compileProgram rules facts registry = .ok clauses) : ∀ c ∈ clauses, c.IsDefinite := by
  obtain ⟨rules', hprogram, hcompile⟩ := exists_program_iff.2 h
  exact isDefinite_of_compile (isDefinite_of_mem_program hrules hprogram) hcompile

theorem isSafe_of_compileProgram (h : compileProgram rules facts registry = .ok clauses) :
    ∀ c ∈ clauses, c.isSafe = true := by
  obtain ⟨ls, -, hcompile⟩ := compileProgram_eq_ok_iff.1 h
  exact (of_compile hcompile).1

theorem compileProgram_of_extends (h : compileProgram rules facts registry = .ok clauses)
    {registry' : Registry} (hext : registry.Extends registry') :
    compileProgram rules facts registry' = .ok clauses := by
  obtain ⟨ls, hls, hcompile⟩ := compileProgram_eq_ok_iff.1 h
  exact compileProgram_eq_ok_iff.2 ⟨ls, Registry.resolve_of_extends hls hext, hcompile⟩

theorem computeModels_of_definite {facts : LitSet} (hrules : ∀ r ∈ rules, r.isDefinite = true)
    (h : compileProgram rules [facts] registry = .ok clauses) :
    ((∀ M, ¬ IsStable clauses M) ∧
        ∀ limit, computeModels ⟨rules, facts, limit⟩ registry = (.error .noModel, registry)) ∨
      ∃ (M : Set GroundAtom) (s : LitSet) (registry' : Registry),
        (∀ N, IsStable clauses N ↔ N = M) ∧ registry'.denote s = GroundAtom.literal '' M ∧
          ∀ limit, computeModels ⟨rules, facts, limit⟩ registry = (.ok [s], registry') ∧
            computeModels ⟨rules, facts, limit⟩ registry' = (.ok [s], registry') := by
  rcases stableModels_of_definite (isSafe_of_compileProgram h)
    (isDefinite_of_compileProgram hrules h) with ⟨hnone, hmodels⟩ | ⟨model, hstable, hmodels⟩
  · exact .inl ⟨hnone, fun limit => by simp [computeModels_eq, h, hmodels]⟩
  · let ls := model.map GroundAtom.literal
    have hext := registry.registerSet_extends ls
    have hagain := compileProgram_of_extends h hext
    refine .inr ⟨{a | a ∈ model}, (registry.registerSet ls).1, (registry.registerSet ls).2,
      hstable, ?_, fun limit => ⟨?_, ?_⟩⟩
    · rw [Registry.denote_registerSet]
      ext l
      simp [ls]
    · simp [computeModels_eq, h, hmodels, Registry.registerSets, ls]
    · simp [computeModels_eq, hagain, hmodels, Registry.registerSets, Registry.registerSet_twice,
        ls]

end Queries

end Solver

end AnswerSetLearning
