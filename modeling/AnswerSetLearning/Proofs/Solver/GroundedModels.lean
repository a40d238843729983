import Mathlib
import AnswerSetLearning.Proofs.Solver.DefinitePrograms
import AnswerSetLearning.Proofs.Solver.FactNames
import AnswerSetLearning.Proofs.Solver.Search
import AnswerSetLearning.Proofs.Solver.Strata

namespace AnswerSetLearning

theorem Registry.mem_registerSets_denote {r : Registry} {lss : List (List Literal)} {s : LitSet}
    (hs : s ∈ (r.registerSets lss).1) :
    ∃ ls ∈ lss, ∀ l ∈ ls, l ∈ (r.registerSets lss).2.denote s := by
  induction lss generalizing r with
  | nil => cases hs
  | cons ls lss ih =>
    rcases List.mem_cons.1 hs with rfl | hs
    · refine ⟨ls, List.mem_cons_self, fun l hl => ?_⟩
      obtain ⟨i, hi, hl⟩ : l ∈ (r.registerSet ls).2.denote (r.registerSet ls).1 :=
        denote_registerSet r ls ▸ hl
      exact ⟨i, hi, registerSets_extends _ lss hl⟩
    · obtain ⟨ls', hls', h⟩ := ih hs
      exact ⟨ls', List.mem_cons_of_mem _ hls', h⟩

namespace Solver

section Programs

variable {rules : List Rule} {a b : LitSet} {registry : Registry} {clauses : List Clause}

theorem compileProgram_union (h : compileProgram rules [a, b] registry = .ok clauses) :
    ∃ clauses', compileProgram rules [a.union b] registry = .ok clauses' ∧
      ∀ c, c ∈ clauses' ↔ c ∈ clauses := by
  obtain ⟨ls, hls, hcompile⟩ := compileProgram_eq_ok_iff.1 h
  have hitems (i : Lit) :
      i ∈ [a.union b].flatMap SortedSet.items ↔ i ∈ [a, b].flatMap SortedSet.items := by
    simpa [SortedSet.mem_def] using SortedSet.mem_union (a := i) (s := a) (t := b)
  have hregistered (i : Lit) (hi : i ∈ [a, b].flatMap SortedSet.items) :
      ∃ l, registry.get? i = some l := by
    have hmem := List.mem_map_of_mem (f := registry.get?) hi
    rw [Registry.resolve_eq_ok_iff.1 hls] at hmem
    obtain ⟨l, -, hl⟩ := List.mem_map.1 hmem
    exact ⟨l, hl.symm⟩
  obtain ⟨ls', hls'⟩ := Registry.exists_resolve fun i hi => hregistered i ((hitems i).1 hi)
  have hmem (l : Literal) : l ∈ ls' ↔ l ∈ ls := by
    rw [Registry.mem_of_resolve (s := ⟨_⟩) hls', Registry.mem_of_resolve (s := ⟨_⟩) hls]
    exact exists_congr fun i => and_congr_left' (hitems i)
  have hrules (r : Rule) : r ∈ rules ++ ls'.map factRule ↔ r ∈ rules ++ ls.map factRule := by
    simp only [List.mem_append, List.mem_map, hmem]
  obtain ⟨clauses', hcompile', hclauses⟩ := compile_of_mem_iff hcompile hrules
  exact ⟨clauses', compileProgram_eq_ok_iff.2 ⟨ls', hls', hcompile'⟩, hclauses⟩

end Programs

def Clause.IsViolated (c : Clause) (M : Set GroundAtom) : Prop :=
  c.head = none ∧ ∃ v, (∀ o ∈ c.atoms, o.Holds v M M) ∧ ∀ t ∈ c.tests, t.Holds v

/-- The set violates a constraint, or an atom and its opposite are in it. -/
def IsRefuted (clauses : List Clause) (M : Set GroundAtom) : Prop :=
  (∃ c ∈ clauses, c.IsViolated M) ∨ ∃ a ∈ M, a.opposite ∈ M

section Facts

variable {clauses clauses' : List Clause} {M : Set GroundAtom} {a : GroundAtom}

theorem Clause.isViolated_iff {c : Clause} : c.IsViolated M ↔
    ∃ v i, c.Grounds v i ∧ i.head = none ∧ i.Admits M ∧ ∀ b ∈ i.positive, b ∈ M := by
  constructor
  · rintro ⟨hhead, v, hbody⟩
    exact ⟨v, (body_holds_iff (hhead ▸ .none)).1 hbody⟩
  · rintro ⟨v, i, hi, hnone, hrest⟩
    have hhead := hnone ▸ hi.head
    refine ⟨?_, v, (body_holds_iff hhead).2 ⟨i, hi, hnone, hrest⟩⟩
    cases hc : c.head with
    | none => rfl
    | some p =>
      rw [hc] at hhead
      cases hhead

theorem isStable_iff : IsStable clauses M ↔
    (∀ a, a ∈ M ↔ Derives clauses M a) ∧ ¬ IsRefuted clauses M := by
  simp only [IsRefuted, Clause.isViolated_iff]
  constructor
  · rintro ⟨hM, hconstraints, hconsistent⟩
    refine ⟨hM, ?_⟩
    rintro (⟨c, hc, v, i, hi, hnone, hadmits, hpositive⟩ | ⟨a, ha, hopposite⟩)
    · obtain ⟨b, hb, hnot⟩ := hconstraints c hc v i hi hnone hadmits
      exact hnot (hpositive b hb)
    · exact hconsistent a ha hopposite
  · rintro ⟨hM, hnot⟩
    refine ⟨hM, fun c hc v i hi hnone hadmits => ?_, fun a ha hopposite =>
      hnot (.inr ⟨a, ha, hopposite⟩)⟩
    by_contra hall
    exact hnot (.inl ⟨c, hc, v, i, hi, hnone, hadmits, by simpa using hall⟩)

theorem isStable_of_mem_iff (hclauses : ∀ c, c ∈ clauses' ↔ c ∈ clauses) :
    IsStable clauses' M ↔ IsStable clauses M := by
  simp only [isStable_iff, IsRefuted, derives_of_mem_iff hclauses, hclauses]

theorem mem_facts_ground_iff (hread : ∀ c ∈ clauses, c.IsRead)
    (hdefinite : ∀ c ∈ clauses, c.IsDefinite) (M : Set GroundAtom) :
    a ∈ (ground clauses).facts ↔ Derives clauses M a := by
  have hsafe : ∀ c ∈ clauses, c.isSafe = true := fun c hc => (hread c hc).safe
  let N : Set GroundAtom := {a | a ∈ definiteModel clauses}
  have hN (a : GroundAtom) : a ∈ N ↔ Derives clauses N a := mem_definiteModel_iff hsafe hdefinite N
  calc
    a ∈ (ground clauses).facts ↔ a ∈ N :=
      ⟨mem_of_mem_facts_ground hread hN,
        mem_facts_ground_of_mem hread (fun c hc => (hdefinite c hc).climbs) hN⟩
    _ ↔ Derives clauses M a := mem_definiteModel_iff hsafe hdefinite M

theorem isStable_iff_of_definite (hread : ∀ c ∈ clauses, c.IsRead)
    (hdefinite : ∀ c ∈ clauses, c.IsDefinite) : IsStable clauses M ↔
      M = {a | a ∈ (ground clauses).facts} ∧ ¬ IsRefuted clauses M := by
  rw [isStable_iff, Set.ext_iff]
  exact and_congr_left' (forall_congr' fun a =>
    iff_congr Iff.rfl (mem_facts_ground_iff hread hdefinite M).symm)

end Facts

section Queries

variable {rules : List Rule} {a b : LitSet} {registry : Registry} {clauses : List Clause}

theorem mem_denote_of_computeModels (h : compileProgram rules [a, b] registry = .ok clauses)
    {limit : Nat} {models : List LitSet} {registry' : Registry}
    (hmodels : computeModels ⟨rules, a.union b, limit⟩ registry = (.ok models, registry'))
    {s : LitSet} (hs : s ∈ models) {atom : GroundAtom} (hatom : atom ∈ (ground clauses).facts) :
    atom.literal ∈ registry'.denote s := by
  obtain ⟨clauses', h', hclauses⟩ := compileProgram_union h
  rw [computeModels_eq, h'] at hmodels
  dsimp only at hmodels
  split at hmodels
  · cases hmodels
  · cases hmodels
    obtain ⟨ls, hls, hdenote⟩ := Registry.mem_registerSets_denote hs
    obtain ⟨model, hmodel, rfl⟩ := List.mem_map.1 hls
    have hstable := (isStable_of_mem_iff hclauses).1
      (isStable_of_mem_stableModels (isSafe_of_compileProgram h') hmodel)
    exact hdenote _ (List.mem_map_of_mem
      (mem_of_mem_facts_ground (isRead_of_compileProgram h) hstable.mem_iff hatom))

theorem computeModels_union_of_definite (h : compileProgram rules [a, b] registry = .ok clauses)
    (hrules : ∀ r ∈ rules, r.isDefinite = true) (limit : Nat) :
    (IsRefuted clauses {atom | atom ∈ (ground clauses).facts} ∧
        computeModels ⟨rules, a.union b, limit⟩ registry = (.error .noModel, registry)) ∨
      ¬ IsRefuted clauses {atom | atom ∈ (ground clauses).facts} ∧
        ∃ s registry', computeModels ⟨rules, a.union b, limit⟩ registry = (.ok [s], registry') ∧
          registry'.denote s = GroundAtom.literal '' {atom | atom ∈ (ground clauses).facts} := by
  obtain ⟨clauses', h', hclauses⟩ := compileProgram_union h
  have hstable (M : Set GroundAtom) : IsStable clauses' M ↔
      M = {atom | atom ∈ (ground clauses).facts} ∧ ¬ IsRefuted clauses M :=
    (isStable_of_mem_iff hclauses).trans (isStable_iff_of_definite (isRead_of_compileProgram h)
      (isDefinite_of_compileProgram hrules h))
  rcases computeModels_of_definite hrules h' with
    ⟨hnone, hcompute⟩ | ⟨M, s, registry', hM, hs, hcompute⟩
  · refine .inl ⟨?_, hcompute limit⟩
    by_contra hnot
    exact hnone _ ((hstable _).2 ⟨rfl, hnot⟩)
  · obtain ⟨rfl, hnot⟩ := (hstable M).1 ((hM M).2 rfl)
    exact .inr ⟨hnot, s, registry', (hcompute limit).1, hs⟩

/-- What grounding finds is in every model. Without negation it is the only model, and there is
none if what it finds violates a constraint, or contains an atom and its opposite. -/
theorem groundFacts_agrees_with_computeModels {ls : List Literal}
    (h : groundFacts rules a b registry = .ok ls) (limit : Nat) :
    (∀ models registry',
        computeModels ⟨rules, a.union b, limit⟩ registry = (.ok models, registry') →
          ∀ s ∈ models, ∀ l ∈ ls, l ∈ registry'.denote s) ∧
      ((∀ r ∈ rules, r.isDefinite = true) →
        ∃ clauses, compileProgram rules [a, b] registry = .ok clauses ∧
          (ground clauses).facts.map GroundAtom.literal = ls ∧
          ((computeModels ⟨rules, a.union b, limit⟩ registry).1 = .error .noModel ↔
            IsRefuted clauses {atom | atom ∈ (ground clauses).facts}) ∧
          (¬ IsRefuted clauses {atom | atom ∈ (ground clauses).facts} →
            ∃ s registry',
              computeModels ⟨rules, a.union b, limit⟩ registry = (.ok [s], registry') ∧
                registry'.denote s = {l | l ∈ ls})) := by
  obtain ⟨clauses, hclauses, rfl⟩ := exists_of_groundFacts h
  constructor
  · intro models registry' hmodels s hs l hl
    obtain ⟨atom, hatom, rfl⟩ := List.mem_map.1 hl
    exact mem_denote_of_computeModels hclauses hmodels hs hatom
  · intro hrules
    refine ⟨clauses, hclauses, rfl, ?_⟩
    rcases computeModels_union_of_definite hclauses hrules limit with
      ⟨hrefuted, hcompute⟩ | ⟨hnot, s, registry', hcompute, hs⟩
    · exact ⟨by simp [hcompute, hrefuted], fun hnot => absurd hrefuted hnot⟩
    · refine ⟨by simp [hcompute, hnot], fun _ => ⟨s, registry', hcompute, hs.trans ?_⟩⟩
      ext l
      simp

end Queries

def steps : List Rule :=
  [⟨some ⟨"r", ["X"]⟩, [.atom false ⟨"r", ["Y"]⟩, .atom false ⟨"s", ["Y", "X"]⟩]⟩,
    ⟨none, [.atom false ⟨"r", ["4"]⟩]⟩]

theorem steps_one_model :
    let registry : Registry := ⟨[⟨"r", ["1"]⟩, ⟨"s", ["1", "2"]⟩, ⟨"s", ["2", "3"]⟩]⟩
    ∃ ls, groundFacts steps ⟨[1, 2]⟩ ⟨[3]⟩ registry = .ok ls ∧ ⟨"r", ["3"]⟩ ∈ ls ∧
      ∃ s registry', computeModels ⟨steps, SortedSet.union ⟨[1, 2]⟩ ⟨[3]⟩, 0⟩ registry =
        (.ok [s], registry') ∧ registry'.denote s = {l | l ∈ ls} := by
  intro registry
  have hground : groundFacts steps ⟨[1, 2]⟩ ⟨[3]⟩ registry = .ok [⟨"r", ["1"]⟩, ⟨"s", ["1", "2"]⟩,
      ⟨"s", ["2", "3"]⟩, ⟨"r", ["2"]⟩, ⟨"r", ["3"]⟩] := by cbv
  have hmodel : (computeModels ⟨steps, SortedSet.union ⟨[1, 2]⟩ ⟨[3]⟩, 0⟩ registry).1 ≠
      .error .noModel := by decide +kernel
  obtain ⟨-, hdefinite⟩ := groundFacts_agrees_with_computeModels hground 0
  obtain ⟨clauses, -, -, hrefuted, hone⟩ := hdefinite (by decide)
  exact ⟨_, hground, by simp, hone fun h => hmodel (hrefuted.2 h)⟩

/-- The facts `-p` and `p` violate no constraint, since there is none. -/
theorem opposites_no_model :
    let registry : Registry := ⟨[⟨"-p", []⟩, ⟨"p", []⟩]⟩
    groundFacts [] ⟨[1]⟩ ⟨[2]⟩ registry = .ok [⟨"p", []⟩, ⟨"p", []⟩] ∧
      computeModels ⟨[], SortedSet.union ⟨[1]⟩ ⟨[2]⟩, 0⟩ registry = (.error .noModel, registry) ∧
      ∃ clauses, compileProgram [] [⟨[1]⟩, ⟨[2]⟩] registry = .ok clauses ∧
        ∀ c ∈ clauses, ∀ M, ¬ c.IsViolated M := by
  intro registry
  have hground : groundFacts [] ⟨[1]⟩ ⟨[2]⟩ registry = .ok [⟨"p", []⟩, ⟨"p", []⟩] := by
    decide +kernel
  have hmodels : computeModels ⟨[], SortedSet.union ⟨[1]⟩ ⟨[2]⟩, 0⟩ registry =
      (.error .noModel, registry) := by decide +kernel
  have hclauses : compileProgram [] [⟨[1]⟩, ⟨[2]⟩] registry =
      .ok [factClause ⟨"-p", []⟩, factClause ⟨"p", []⟩] := by decide +kernel
  refine ⟨hground, hmodels, _, hclauses, ?_⟩
  simp [Clause.IsViolated, factClause]

end Solver

end AnswerSetLearning
