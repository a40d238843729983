import AnswerSetLearning.Proofs.Compatibility
import AnswerSetLearning.Proofs.Solver.DefinitePrograms

namespace AnswerSetLearning

open Solver

def checkFirstConditions {σ ε : Type} (ask : ModelQuery → σ → Except ε (List LitSet) × σ)
    (definite : List Rule) (e₁ e₂ : Example) (conflict : Condition → Conflict) (s₁ : LitSet)
    (state : σ) : Except (CheckFault ε) Unit × σ :=
  if !e₂.input.isSubset s₁ then (.ok (), state)
  else if violatesInclusion e₁ e₂ s₁ then (.error (.conflict (conflict .i)), state)
  else
    match ask ⟨definite, e₂.input, 1⟩ state with
    | (.error e, state) => (.error (.solver e), state)
    | (.ok models, state) =>
      if models.head?.any e₁.input.isSubset then (.error (.conflict (conflict .ii)), state)
      else (.ok (), state)

theorem checkFirstConditions_ne_iii {σ ε : Type}
    {ask : ModelQuery → σ → Except ε (List LitSet) × σ} (definite : List Rule) (e₁ e₂ : Example)
    (first second i j : Int) (s₁ : LitSet) (s : σ) :
    (checkFirstConditions ask definite e₁ e₂ (fun c => ⟨c, first, second⟩) s₁ s).1 ≠
      .error (.conflict ⟨.iii, i, j⟩) := by
  unfold checkFirstConditions
  split
  · simp
  split
  · simp
  split
  · simp
  split <;> simp

section Definite

variable {definite : List Rule} (hdefinite : ∀ r ∈ definite, r.isDefinite = true)

include hdefinite

theorem computeModels_again {facts : LitSet} {limit : Nat} {r r' : Registry}
    {models : List LitSet} (h : computeModels ⟨definite, facts, limit⟩ r = (.ok models, r')) :
    ∃ s, models = [s] ∧
      ∀ limit', computeModels ⟨definite, facts, limit'⟩ r' = (.ok [s], r') := by
  cases hclauses : compileProgram definite [facts] r with
  | error e => simp [computeModels_eq, hclauses] at h
  | ok clauses =>
    rcases computeModels_of_definite hdefinite hclauses with ⟨-, hnone⟩ | ⟨M, s, r₁, -, -, hone⟩
    · cases h.symm.trans (hnone limit)
    · cases h.symm.trans (hone limit).1
      exact ⟨s, rfl, fun limit' => (hone limit').2⟩

theorem checkOutput_eq (e₁ e₂ : Example) (conflict : Condition → Conflict) :
    checkOutput computeModels definite e₁ e₂ conflict =
      checkFirstConditions computeModels definite e₁ e₂ conflict := by
  funext s₁ r
  unfold checkOutput checkFirstConditions
  rcases hfirst : computeModels ⟨definite, e₂.input, 1⟩ r with ⟨e | models, r'⟩
  · rfl
  · obtain ⟨s, rfl, hall⟩ := computeModels_again hdefinite hfirst
    simp only [hall]
    -- the second answer has no other model than the first
    cases hs : e₁.input.isSubset s <;> simp [hs]

theorem checkPair_eq (e₁ e₂ : Example) (i j : Int) :
    checkPair computeModels definite ((e₁, i), (e₂, j)) =
      checkEach (checkFirstConditions computeModels definite e₁ e₂ fun c => ⟨c, i, j⟩)
        (distinctOutputs e₁ e₂) := by
  rw [← checkOutput_eq hdefinite]
  rfl

end Definite

theorem Task.isDefinite_of_mem_definiteRules (t : Task) :
    ∀ r ∈ t.definiteRules, r.isDefinite = true := fun _ hr => (List.mem_filter.1 hr).2

theorem checkCompatibility_ne_iii (t : Task) (i j : Int) (r : Registry) :
    (checkCompatibility computeModels t r).1 ≠ .error (.conflict ⟨.iii, i, j⟩) := by
  intro h
  obtain ⟨⟨⟨e₁, first⟩, ⟨e₂, second⟩⟩, -, r, -, h⟩ :=
    checkEach_error (P := fun _ => True) (by simp) trivial h
  rw [checkPair_eq t.isDefinite_of_mem_definiteRules] at h
  obtain ⟨s₁, -, r, -, h⟩ := checkEach_error (P := fun _ => True) (by simp) trivial h
  exact checkFirstConditions_ne_iii _ e₁ e₂ first second i j s₁ r h

namespace Solver

def queryModels (solve : Nat → List Clause → List (List GroundAtom)) (q : ModelQuery)
    (registry : Registry) : Except QueryFault (List LitSet) × Registry :=
  match compileProgram q.rules [q.facts] registry with
  | .error e => (.error e, registry)
  | .ok clauses =>
    match solve q.limit clauses with
    | [] => (.error .noModel, registry)
    | models =>
      let (sets, registry) := registry.registerSets (models.map (·.map GroundAtom.literal))
      (.ok sets, registry)

theorem queryModels_stableModels : queryModels stableModels = computeModels := by
  funext q registry
  exact (computeModels_eq q registry).symm

/-- The search finds the stable models in an order of its own, which may change with the limit. -/
def Reorders (solve : Nat → List Clause → List (List GroundAtom)) : Prop :=
  ∀ limit clauses, ∃ models : List (List GroundAtom), models.Perm (stableModels 0 clauses) ∧
    solve limit clauses = if limit = 0 then models else models.take limit

theorem Reorders.eq_of_definite {solve : Nat → List Clause → List (List GroundAtom)}
    (hsolve : Reorders solve) {clauses : List Clause} (hsafe : ∀ c ∈ clauses, c.isSafe = true)
    (hdefinite : ∀ c ∈ clauses, c.IsDefinite) (limit : Nat) :
    solve limit clauses = stableModels limit clauses := by
  obtain ⟨models, hperm, heq⟩ := hsolve limit clauses
  rw [heq]
  rcases stableModels_of_definite hsafe hdefinite with ⟨-, hmodels⟩ | ⟨model, -, hmodels⟩
  · rw [hmodels, List.perm_nil] at hperm
    simp [hperm, hmodels]
  · rw [hmodels, List.perm_singleton] at hperm
    cases limit <;> simp [hperm, hmodels]

theorem Reorders.queryModels_eq {solve : Nat → List Clause → List (List GroundAtom)}
    (hsolve : Reorders solve) {q : ModelQuery} (hq : ∀ r ∈ q.rules, r.isDefinite = true)
    (registry : Registry) : queryModels solve q registry = computeModels q registry := by
  rw [← queryModels_stableModels, queryModels, queryModels]
  cases h : compileProgram q.rules [q.facts] registry with
  | error e => rfl
  | ok clauses =>
    dsimp only
    rw [hsolve.eq_of_definite (isSafe_of_compileProgram h) (isDefinite_of_compileProgram hq h)]

end Solver

section Reordered

variable {σ ε : Type} {ask ask' : ModelQuery → σ → Except ε (List LitSet) × σ}
  {definite : List Rule}

theorem checkOutput_congr
    (h : ∀ facts limit s, ask ⟨definite, facts, limit⟩ s = ask' ⟨definite, facts, limit⟩ s) :
    checkOutput ask definite = checkOutput ask' definite := by
  funext e₁ e₂ conflict s₁ s
  simp only [checkOutput, h]

theorem checkPair_congr
    (h : ∀ facts limit s, ask ⟨definite, facts, limit⟩ s = ask' ⟨definite, facts, limit⟩ s)
    (p : (Example × Int) × (Example × Int)) (s : σ) :
    checkPair ask definite p s = checkPair ask' definite p s := by
  simp only [checkPair, checkOutput_congr h]

end Reordered

/-- The third condition is never the one that is violated, and could be left out of the check. By
definite rules there is one model at most for given facts, and the solver finds it whatever the
limit and the order of its search. -/
theorem thirdCondition_never_violated :
    (∀ (rules : List Rule) (facts : LitSet) (registry : Registry) (clauses : List Clause),
      (∀ r ∈ rules, r.isDefinite = true) →
      compileProgram rules [facts] registry = .ok clauses →
      ((∀ M, ¬ IsStable clauses M) ∧ ∀ limit,
          computeModels ⟨rules, facts, limit⟩ registry = (.error .noModel, registry)) ∨
        ∃ (M : Set GroundAtom) (s : LitSet) (registry' : Registry),
          (∀ N, IsStable clauses N ↔ N = M) ∧ registry'.denote s = GroundAtom.literal '' M ∧
          ∀ limit, computeModels ⟨rules, facts, limit⟩ registry = (.ok [s], registry') ∧
            computeModels ⟨rules, facts, limit⟩ registry' = (.ok [s], registry')) ∧
    (∀ (t : Task) (registry : Registry) (i j : Int),
      (checkCompatibility computeModels t registry).1 ≠ .error (.conflict ⟨.iii, i, j⟩)) ∧
    (∀ (t : Task) (e₁ e₂ : Example) (i j : Int) (registry : Registry),
      checkPair computeModels t.definiteRules ((e₁, i), (e₂, j)) registry =
        checkEach (checkFirstConditions computeModels t.definiteRules e₁ e₂ fun c => ⟨c, i, j⟩)
          (distinctOutputs e₁ e₂) registry) ∧
    ∀ solve, Reorders solve → ∀ (t : Task) (p : (Example × Int) × (Example × Int))
      (registry : Registry), checkPair (queryModels solve) t.definiteRules p registry =
        checkPair computeModels t.definiteRules p registry := by
  refine ⟨fun rules facts registry clauses hrules h => computeModels_of_definite hrules h,
    fun t registry i j => checkCompatibility_ne_iii t i j registry,
    fun t e₁ e₂ i j registry => ?_, fun solve hsolve t p registry => ?_⟩
  · rw [checkPair_eq t.isDefinite_of_mem_definiteRules]
  · exact checkPair_congr (fun _ _ => hsolve.queryModels_eq t.isDefinite_of_mem_definiteRules) p
      registry

def reversedModels (limit : Nat) (clauses : List Clause) : List (List GroundAtom) :=
  if limit = 0 then (stableModels 0 clauses).reverse
  else (stableModels 0 clauses).reverse.take limit

theorem reorders_reversedModels : Reorders reversedModels := fun _ _ =>
  ⟨_, List.reverse_perm _, rfl⟩

def boundedSteps : Task where
  registry := ⟨[⟨"r", ["1"]⟩, ⟨"s", ["1", "2"]⟩, ⟨"s", ["2", "3"]⟩]⟩
  background := [⟨some ⟨"r", ["X"]⟩, [.atom false ⟨"r", ["Y"]⟩, .atom false ⟨"s", ["Y", "X"]⟩,
    .comparison .less "X" "3"]⟩, ⟨none, [.atom false ⟨"r", ["4"]⟩]⟩]
  examples := [⟨⟨[3]⟩, [⟨[1, 2, 3]⟩]⟩, ⟨⟨[1, 2, 3]⟩, []⟩]

theorem boundedSteps_one_model :
    (∃ clauses M s registry',
      compileProgram boundedSteps.background [⟨[1, 2, 3]⟩] boundedSteps.registry = .ok clauses ∧
      (∀ N, IsStable clauses N ↔ N = M) ∧ registry'.denote s = GroundAtom.literal '' M ∧
      ∀ limit, computeModels ⟨boundedSteps.background, ⟨[1, 2, 3]⟩, limit⟩ boundedSteps.registry =
        (.ok [s], registry')) ∧
    ∀ p registry, checkPair (queryModels reversedModels) boundedSteps.definiteRules p registry =
      checkPair computeModels boundedSteps.definiteRules p registry := by
  obtain ⟨hone, -, -, horder⟩ := thirdCondition_never_violated
  refine ⟨?_, horder reversedModels reorders_reversedModels boundedSteps⟩
  have hcompiles : (compileProgram boundedSteps.background [⟨[1, 2, 3]⟩]
      boundedSteps.registry).toOption.isSome = true := by decide +kernel
  have hmodel : (computeModels ⟨boundedSteps.background, ⟨[1, 2, 3]⟩, 1⟩
      boundedSteps.registry).1.toOption.isSome = true := by decide +kernel
  cases hclauses : compileProgram boundedSteps.background [⟨[1, 2, 3]⟩]
      boundedSteps.registry with
  | error e =>
    rw [hclauses] at hcompiles
    cases hcompiles
  | ok clauses =>
    rcases hone _ _ _ clauses (by decide) hclauses with ⟨-, hnone⟩ | ⟨M, s, registry', hM, hs, hq⟩
    · rw [hnone 1] at hmodel
      cases hmodel
    · exact ⟨clauses, M, s, registry', rfl, hM, hs, fun limit => (hq limit).1⟩

end AnswerSetLearning
