import AnswerSetLearning.Proofs.Solver.GroundedModels

namespace AnswerSetLearning

namespace Solver

/-- What the user is told of a fault of the solver: its messages are one kind. -/
inductive FaultKind
  | invalid (e : InvalidLiteral)
  | solver
  | noModel
  deriving DecidableEq

def QueryFault.kind : QueryFault → FaultKind
  | .invalid e => .invalid e
  | .solver _ => .solver
  | .noModel => .noModel

end Solver

def Literal.signature (l : Literal) : Solver.Signature :=
  ⟨l.predicate, if l.args = [""] then 0 else l.args.length⟩

/-- Each head is on no lower level than the atoms of its body, and on a higher one than those that
are negated. So no predicate depends on itself through a negated atom. -/
def Rule.Climbs (level : Solver.Signature → Nat) (r : Rule) : Prop :=
  ∀ h, r.head = some h → ∀ negated l, .atom negated l ∈ r.body →
    level l.signature + negated.toNat ≤ level h.signature

def IsStratified (rules : List Rule) : Prop := ∃ level, ∀ r ∈ rules, r.Climbs level

namespace Solver

theorem Pattern.signature_of_ofLiteral? {l : Literal} {p : Pattern} (h : ofLiteral? l = some p) :
    p.signature = l.signature := by
  unfold ofLiteral? at h
  split at h
  · cases h
  split at h
  · next hargs =>
    cases h
    simp [signature, Literal.signature, hargs]
  · next hargs =>
    obtain ⟨args, hmapM, rfl⟩ := Option.map_eq_some_iff.1 h
    rw [signature, Literal.signature, if_neg hargs, (forall₂_of_mapM hmapM).length_eq]

theorem Clause.climbs_of_ofRule? {level : Signature → Nat} {r : Rule} (hr : r.Climbs level)
    {cs : List Clause} (h : ofRule? r = some cs) {c : Clause} (hc : c ∈ cs) : c.Climbs level := by
  rcases of_ofRule? h hc with ⟨-, -, -, -, -, -, -, rfl⟩ | ⟨head, hhead, hgrows⟩
  · rintro _ _ _ ⟨⟩
  intro p hp o ho
  rw [hgrows.head] at hp
  obtain ⟨h, hr', hh⟩ := hhead p hp
  rcases hgrows.atoms o ho with ho | ⟨l, hl, ho⟩
  · cases ho
  rw [Pattern.signature_of_ofLiteral? ho, Pattern.signature_of_ofLiteral? hh]
  exact hr h hr' o.negated l hl

theorem climbs_of_compileProgram {level : Signature → Nat} {rules : List Rule}
    {facts : List LitSet} {registry : Registry} {clauses : List Clause}
    (hrules : ∀ r ∈ rules, r.Climbs level)
    (h : compileProgram rules facts registry = .ok clauses) : ∀ c ∈ clauses, c.Climbs level := by
  obtain ⟨ls, -, hcompile⟩ := compileProgram_eq_ok_iff.1 h
  intro c hc
  obtain ⟨r, hr, cs, hcs, hc⟩ := ((of_compile hcompile).2 c).1 hc
  refine Clause.climbs_of_ofRule? ?_ hcs hc
  rcases List.mem_append.1 hr with hr | hr
  · exact hrules r hr
  · obtain ⟨l, -, rfl⟩ := List.mem_map.1 hr
    rintro _ _ _ _ ⟨⟩

section Orders

variable {rules rules' : List Rule} (hrules : ∀ r, r ∈ rules' ↔ r ∈ rules)

include hrules

theorem compile_error_of_mem_iff {f : Fault} (h : compile rules = .error f) :
    ∃ f', compile rules' = .error f' := by
  cases h' : compile rules' with
  | error f' => exact ⟨f', rfl⟩
  | ok clauses' =>
    obtain ⟨clauses, hclauses, -⟩ := compile_of_mem_iff h' fun r => (hrules r).symm
    cases h.symm.trans hclauses

theorem sameAnswer_builtIn (hdefinite : ∀ r ∈ rules, r.isDefinite = true) (limit : Nat) :
    Engine.SameAnswer (Engine.builtIn.models limit rules) (Engine.builtIn.models limit rules') := by
  cases h : compile rules with
  | error f =>
    obtain ⟨f', h'⟩ := compile_error_of_mem_iff hrules h
    simp only [Engine.builtIn, h, h']
    exact .error f f'
  | ok clauses =>
    obtain ⟨clauses', h', hclauses⟩ := compile_of_mem_iff h hrules
    have hstable {M} := isStable_of_mem_iff hclauses (M := M)
    simp only [Engine.builtIn, h, h', Except.map]
    refine .ok ?_
    rcases stableModels_of_definite (of_compile h).1 (isDefinite_of_compile hdefinite h) with
      ⟨hnone, hmodels⟩ | ⟨model, hM, hmodels⟩
    all_goals
      rcases stableModels_of_definite (of_compile h').1
        (isDefinite_of_compile (fun r hr => hdefinite r ((hrules r).1 hr)) h') with
        ⟨hnone', hmodels'⟩ | ⟨model', hM', hmodels'⟩
    · rw [hmodels, hmodels']
      exact .nil
    · exact absurd (hstable.1 ((hM' _).2 rfl)) (hnone _)
    · exact absurd (hstable.2 ((hM _).2 rfl)) (hnone' _)
    · have hsame := Set.ext_iff.1 ((hM' _).1 (hstable.2 ((hM _).2 rfl)))
      rw [hmodels, hmodels']
      refine .cons (fun l => ?_) .nil
      simp only [List.mem_map]
      exact exists_congr fun a => and_congr_left fun _ => (hsame a).symm

omit hrules in
theorem ignoresOrder_builtIn : Engine.builtIn.IgnoresOrder where
  facts {rules rules'} hrules f h := by
    cases hcompile : compile rules with
    | ok clauses => simp [Engine.builtIn, hcompile, Except.map] at h
    | error f =>
      obtain ⟨f', h'⟩ := compile_error_of_mem_iff hrules hcompile
      exact ⟨f', by simp [Engine.builtIn, h', Except.map]⟩
  models hrules hdefinite limit := sameAnswer_builtIn hrules hdefinite limit

end Orders

section Programs

variable {rules rules' : List Rule} (hrules : ∀ r, r ∈ rules' ↔ r ∈ rules) {facts : List LitSet}
  {registry : Registry}

include hrules

theorem compileProgram_of_mem_iff {clauses : List Clause}
    (h : compileProgram rules facts registry = .ok clauses) :
    ∃ clauses', compileProgram rules' facts registry = .ok clauses' ∧
      ∀ c, c ∈ clauses' ↔ c ∈ clauses := by
  obtain ⟨program, hprogram, hcompile⟩ := exists_program_iff.2 h
  obtain ⟨program', hprogram', hmem⟩ := program_of_mem_iff hprogram hrules
  obtain ⟨clauses', hcompile', hclauses⟩ := compile_of_mem_iff hcompile hmem
  exact ⟨clauses', exists_program_iff.1 ⟨program', hprogram', hcompile'⟩, hclauses⟩

theorem mem_groundFacts_of_isStratified (h : IsStratified rules) {a b : LitSet}
    {ls ls' : List Literal} (hls : groundFacts rules a b registry = .ok ls)
    (hls' : groundFacts rules' a b registry = .ok ls') (l : Literal) : l ∈ ls' ↔ l ∈ ls := by
  obtain ⟨level, hlevel⟩ := h
  obtain ⟨cs, hcs, rfl⟩ := exists_of_groundFacts hls
  obtain ⟨cs', hcs', rfl⟩ := exists_of_groundFacts hls'
  obtain ⟨cs'', hcs'', hmem⟩ := compileProgram_of_mem_iff hrules hcs
  cases hcs'.symm.trans hcs''
  have hfacts (a : GroundAtom) := mem_facts_ground_of_mem_iff (isRead_of_compileProgram hcs)
    (climbs_of_compileProgram hlevel hcs) hmem (a := a)
  simp only [List.mem_map, hfacts]

end Programs

end Solver

end AnswerSetLearning
