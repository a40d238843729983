import AnswerSetLearning.Proofs.Registry
import AnswerSetLearning.Proofs.Solver.Facts

/-! What any solver answers, when it is asked about registered facts. -/

namespace AnswerSetLearning.Solver

section Programs

variable {rules rules' : List Rule} {facts : List LitSet} {registry : Registry}

theorem program_eq_ok_iff : program rules facts registry = .ok rules' ↔
    ∃ ls, registry.resolve (facts.flatMap SortedSet.items) = .ok ls ∧
      rules' = rules ++ ls.map factRule := by
  unfold program
  cases registry.resolve (facts.flatMap SortedSet.items) with
  | error e => simp [Except.map]
  | ok ls => simp [Except.map, eq_comm]

theorem factRule_mem_program (h : program rules facts registry = .ok rules') {s : LitSet}
    (hs : s ∈ facts) {l : Literal} (hl : l ∈ registry.denote s) : factRule l ∈ rules' := by
  obtain ⟨ls, hls, rfl⟩ := program_eq_ok_iff.1 h
  have hmem : l ∈ registry.denote ⟨facts.flatMap SortedSet.items⟩ := by
    obtain ⟨i, hi, hl⟩ := hl
    exact ⟨i, List.mem_flatMap.2 ⟨s, hs, hi⟩, hl⟩
  exact List.mem_append_right _
    (List.mem_map_of_mem ((Registry.mem_of_resolve (s := ⟨_⟩) hls).2 hmem))

theorem isDefinite_of_mem_program (hrules : ∀ r ∈ rules, r.isDefinite = true)
    (h : program rules facts registry = .ok rules') : ∀ r ∈ rules', r.isDefinite = true := by
  obtain ⟨ls, -, rfl⟩ := program_eq_ok_iff.1 h
  refine List.forall_mem_append.2 ⟨hrules, fun r hr => ?_⟩
  obtain ⟨l, -, rfl⟩ := List.mem_map.1 hr
  rfl

theorem program_of_mem_iff (h : program rules facts registry = .ok rules') {others : List Rule}
    (hothers : ∀ r, r ∈ others ↔ r ∈ rules) :
    ∃ others', program others facts registry = .ok others' ∧ ∀ r, r ∈ others' ↔ r ∈ rules' := by
  obtain ⟨ls, hls, rfl⟩ := program_eq_ok_iff.1 h
  refine ⟨_, program_eq_ok_iff.2 ⟨ls, hls, rfl⟩, fun r => ?_⟩
  simp only [List.mem_append, hothers]

theorem exists_program (rules : List Rule) (h : ∀ s ∈ facts, registry.Registers s) :
    ∃ rules', program rules facts registry = .ok rules' := by
  obtain ⟨ls, hls⟩ := Registry.exists_resolve_of_registers h
  exact ⟨_, program_eq_ok_iff.2 ⟨ls, hls, rfl⟩⟩

theorem program_eq_of_extends {registry' : Registry} (h : ∀ s ∈ facts, registry.Registers s)
    (hext : registry.Extends registry') :
    program rules facts registry' = program rules facts registry := by
  obtain ⟨ls, hls⟩ := Registry.exists_resolve_of_registers h
  rw [program, program, hls, Registry.resolve_of_extends hls hext]

end Programs

namespace Engine

variable {E : Engine} {rules : List Rule} {a b : LitSet} {q : ModelQuery}
  {registry registry' : Registry} {ls : List Literal} {models : List LitSet}

theorem groundFacts_eq_ok_iff : E.groundFacts rules a b registry = .ok ls ↔
    ∃ rules', program rules [a, b] registry = .ok rules' ∧ E.facts rules' = .ok ls := by
  unfold groundFacts
  cases program rules [a, b] registry with
  | error e => simp
  | ok rules' =>
    cases hfacts : E.facts rules' with
    | error f => simp [hfacts, Except.mapError]
    | ok ls => simp [hfacts, Except.mapError]

/-- What becomes of a question: there is no program, the solver fails or finds no model, or its
models are registered. -/
theorem computeModels_cases (q : ModelQuery) (registry : Registry) :
    (∃ f, E.computeModels q registry = (.error f, registry)) ∨
      ∃ rules ls lss, program q.rules [q.facts] registry = .ok rules ∧
        E.models q.limit rules = .ok (ls :: lss) ∧
        E.computeModels q registry =
          (.ok (registry.registerSets (ls :: lss)).1, (registry.registerSets (ls :: lss)).2) := by
  unfold computeModels
  cases program q.rules [q.facts] registry with
  | error e => exact .inl ⟨_, rfl⟩
  | ok rules =>
    cases hmodels : E.models q.limit rules with
    | error f => exact .inl ⟨.solver f, by simp [hmodels]⟩
    | ok lss =>
      cases lss with
      | nil => exact .inl ⟨.noModel, by simp [hmodels]⟩
      | cons ls lss => exact .inr ⟨rules, ls, lss, rfl, hmodels, by simp [hmodels]⟩

theorem computeModels_extends (q : ModelQuery) (registry : Registry) :
    registry.Extends (E.computeModels q registry).2 := by
  obtain ⟨f, heq⟩ | ⟨rules, ls, lss, -, -, heq⟩ := E.computeModels_cases q registry
  · rw [heq]
    exact .refl registry
  · rw [heq]
    exact Registry.registerSets_extends _ _

theorem wellFormed_computeModels (hr : registry.WellFormed) :
    (E.computeModels q registry).2.WellFormed := by
  obtain ⟨f, heq⟩ | ⟨rules, ls, lss, -, -, heq⟩ := E.computeModels_cases q registry
  · rw [heq]
    exact hr
  · rw [heq]
    exact hr.registerSets _

/-! ## Facts -/

/-- Grounding finds the given facts, and every stable model has them. -/
structure KeepsFacts (E : Engine) : Prop where
  facts {rules : List Rule} {ls : List Literal} (h : E.facts rules = .ok ls) {l : Literal}
    (hl : factRule l ∈ rules) (hspelled : l.WellSpelled) (hfits : l.NumbersFit) : l ∈ ls
  models {limit : Nat} {rules : List Rule} {lss : List (List Literal)}
    (h : E.models limit rules = .ok lss) {l : Literal} (hl : factRule l ∈ rules)
    (hspelled : l.WellSpelled) (hfits : l.NumbersFit) : ∀ ls ∈ lss, l ∈ ls

namespace KeepsFacts

variable (hE : E.KeepsFacts)

include hE

theorem mem_groundFacts (h : E.groundFacts rules a b registry = .ok ls) {s : LitSet}
    (hs : s ∈ [a, b]) {l : Literal} (hl : l ∈ registry.denote s) (hspelled : l.WellSpelled)
    (hfits : l.NumbersFit) : l ∈ ls := by
  obtain ⟨rules', hprogram, hfacts⟩ := groundFacts_eq_ok_iff.1 h
  exact hE.facts hfacts (factRule_mem_program hprogram hs hl) hspelled hfits

theorem facts_subset_of_computeModels (hr : registry.WellFormed)
    (hfacts : ∀ l ∈ registry.denote q.facts, l.WellSpelled ∧ l.NumbersFit)
    (hregisters : registry.Registers q.facts)
    (h : E.computeModels q registry = (.ok models, registry')) :
    models ≠ [] ∧ ∀ m ∈ models, m.Normal ∧ q.facts ⊆ m := by
  obtain ⟨f, heq⟩ | ⟨rules, ls, lss, hprogram, hmodels, heq⟩ := E.computeModels_cases q registry
  · cases heq.symm.trans h
  cases heq.symm.trans h
  have hforall := Registry.registerSets_forall₂ hr (ls :: lss)
  constructor
  · intro hnil
    rw [hnil] at hforall
    cases hforall
  · intro m hm
    obtain ⟨ms, hms, hnormal, hmem⟩ := exists_of_forall₂ hforall hm
    refine ⟨hnormal, fun i hi => ?_⟩
    obtain ⟨l, hl⟩ := hregisters i hi
    have hdenote : l ∈ registry.denote q.facts := ⟨i, hi, hl⟩
    obtain ⟨hspelled, hfits⟩ := hfacts l hdenote
    have hrule := factRule_mem_program hprogram (List.mem_singleton_self _) hdenote
    exact (hmem i).2 ⟨l, hE.models hmodels hrule hspelled hfits ms hms,
      Registry.registerSets_extends _ _ hl⟩

end KeepsFacts

/-- Faults are as good as each other, models are lists without order and repeats. -/
inductive SameAnswer :
    Except Fault (List (List Literal)) → Except Fault (List (List Literal)) → Prop
  | error (f f') : SameAnswer (.error f) (.error f')
  | ok {lss lss'} : List.Forall₂ (fun ls ls' => ∀ l, l ∈ ls' ↔ l ∈ ls) lss lss' →
      SameAnswer (.ok lss) (.ok lss')

/-- The order of the rules does not decide whether grounding succeeds, nor which models definite
rules have. -/
structure IgnoresOrder (E : Engine) : Prop where
  facts {rules rules' : List Rule} (hrules : ∀ r, r ∈ rules' ↔ r ∈ rules) {f : Fault}
    (h : E.facts rules = .error f) : ∃ f', E.facts rules' = .error f'
  models {rules rules' : List Rule} (hrules : ∀ r, r ∈ rules' ↔ r ∈ rules)
    (hdefinite : ∀ r ∈ rules, r.isDefinite = true) (limit : Nat) :
    SameAnswer (E.models limit rules) (E.models limit rules')

theorem IgnoresOrder.groundFacts_error (hE : E.IgnoresOrder) {rules' : List Rule}
    (hrules : ∀ r, r ∈ rules' ↔ r ∈ rules) (ha : registry.Registers a) (hb : registry.Registers b)
    {f : QueryFault} (h : E.groundFacts rules a b registry = .error f) :
    ∃ e e', f = .solver e ∧ E.groundFacts rules' a b registry = .error (.solver e') := by
  have hfacts : ∀ s ∈ [a, b], registry.Registers s := by simpa using ⟨ha, hb⟩
  obtain ⟨p, hp⟩ := exists_program rules hfacts
  obtain ⟨p', hp', hmem⟩ := program_of_mem_iff hp hrules
  rw [groundFacts, hp] at h
  cases hanswer : E.facts p with
  | ok ls => simp [hanswer, Except.mapError] at h
  | error e =>
    obtain ⟨e', he'⟩ := hE.facts hmem hanswer
    refine ⟨e, e', ?_, ?_⟩
    · simpa [hanswer, Except.mapError, eq_comm] using h
    · simp [groundFacts, hp', he', Except.mapError]

/-! ## The solver of this library -/

theorem builtIn_facts_eq_ok_iff : builtIn.facts rules = .ok ls ↔
    ∃ clauses, compile rules = .ok clauses ∧
      (ground clauses).facts.map GroundAtom.literal = ls := by
  cases h : compile rules <;> simp [builtIn, h, Except.map]

theorem builtIn_models_eq_ok_iff {limit : Nat} {lss : List (List Literal)} :
    builtIn.models limit rules = .ok lss ↔ ∃ clauses, compile rules = .ok clauses ∧
      (stableModels limit clauses).map (·.map GroundAtom.literal) = lss := by
  cases h : compile rules <;> simp [builtIn, h, Except.map]

end Engine

section Queries

variable (rules : List Rule) (a b : LitSet) (q : ModelQuery) (registry : Registry)

theorem groundFacts_eq : groundFacts rules a b registry =
    (compileProgram rules [a, b] registry).map fun clauses =>
      (ground clauses).facts.map GroundAtom.literal := by
  rw [groundFacts, Engine.groundFacts, compileProgram]
  cases program rules [a, b] registry with
  | error e => rfl
  | ok rules =>
    simp only [Engine.builtIn]
    cases compile rules <;> rfl

theorem exists_program_iff {rules : List Rule} {facts : List LitSet} {registry : Registry}
    {clauses : List Clause} : (∃ rules', program rules facts registry = .ok rules' ∧
      compile rules' = .ok clauses) ↔ compileProgram rules facts registry = .ok clauses := by
  unfold compileProgram
  cases program rules facts registry with
  | error e => simp
  | ok rules' =>
    simp only [Except.ok.injEq, exists_eq_left']
    cases compile rules' <;> simp

theorem exists_of_groundFacts {rules : List Rule} {a b : LitSet} {registry : Registry}
    {ls : List Literal} (h : groundFacts rules a b registry = .ok ls) :
    ∃ clauses, compileProgram rules [a, b] registry = .ok clauses ∧
      (ground clauses).facts.map GroundAtom.literal = ls := by
  rw [groundFacts_eq] at h
  cases hclauses : compileProgram rules [a, b] registry with
  | error e => simp [hclauses, Except.map] at h
  | ok clauses =>
    rw [hclauses] at h
    exact ⟨clauses, rfl, Except.ok.inj h⟩

theorem computeModels_eq : computeModels q registry =
    match compileProgram q.rules [q.facts] registry with
    | .error e => (.error e, registry)
    | .ok clauses =>
      match stableModels q.limit clauses with
      | [] => (.error .noModel, registry)
      | models =>
        let (sets, registry) := registry.registerSets (models.map (·.map GroundAtom.literal))
        (.ok sets, registry) := by
  rw [computeModels, Engine.computeModels, compileProgram]
  cases program q.rules [q.facts] registry with
  | error e => rfl
  | ok rules =>
    simp only [Engine.builtIn]
    cases compile rules with
    | error f => rfl
    | ok clauses =>
      simp only [Except.map]
      cases stableModels q.limit clauses <;> rfl

end Queries

end AnswerSetLearning.Solver
