import AnswerSetLearning.Proofs.CompatiblePairs
import AnswerSetLearning.Proofs.Induction.Renumbered
import AnswerSetLearning.Proofs.Solver.RuleSets

/-! What comes of a task with the same background rules in another order. The solver finds derived
literals in another order, so they get other numbers, and every merge and every walk along the
candidates runs through them in another order. The check does not see the numbers, and the training
examples are made of sets whose literals were numbered before. So the outcome is the same wherever
the solver finds the same facts, which is always so unless negation is cyclic. -/

namespace AnswerSetLearning

open Solver (Engine QueryFault FaultKind)

def Task.withRules (t : Task) (rules : List Rule) : Task := { t with background := rules }

theorem Task.WellFormed.withRules {t : Task} (ht : t.WellFormed) (rules : List Rule) :
    (t.withRules rules).WellFormed := ⟨ht.registry, ht.examples, ht.literals⟩

section Check

variable {E : Engine} (hE : E.IgnoresOrder) {t : Task} {rules : List Rule}
  (hrules : ∀ r, r ∈ rules ↔ r ∈ t.background) (ht : ∀ e ∈ t.examples, e.RegisteredIn t.registry)

include hE hrules ht

theorem simulates_withRules : Simulates t (Registry.Agree t)
    (mapFaults QueryFault.kind E.computeModels)
    (mapFaults QueryFault.kind fun q =>
      E.computeModels { q with rules := (t.withRules rules).definiteRules }) := by
  intro e he limit r r' h
  have hdefinite (rule : Rule) :
      rule ∈ (t.withRules rules).definiteRules ↔ rule ∈ t.definiteRules := by
    simp [Task.definiteRules, Task.withRules, hrules]
  have hregisters : ∀ s ∈ [e.input], t.registry.Registers s :=
    List.forall_mem_singleton.2 (ht e he).registers_input
  obtain ⟨p, hp⟩ := Solver.exists_program t.definiteRules hregisters
  obtain ⟨p', hp', hmem⟩ := Solver.program_of_mem_iff hp hdefinite
  have hsame := hE.models hmem
    (Solver.isDefinite_of_mem_program t.isDefinite_of_mem_definiteRules hp) limit
  refine ⟨?_, computeModels_invariant _ _ h.left, computeModels_invariant _ _ h.right⟩
  simp only [mapFaults, Engine.computeModels, Solver.program_eq_of_extends hregisters h.left.2,
    Solver.program_eq_of_extends hregisters h.right.2, hp, hp']
  generalize E.models limit p = answer, E.models limit p' = answer' at hsame ⊢
  cases hsame with
  | error f f' => exact .error _
  | ok hmodels =>
    cases hmodels with
    | nil => exact .error _
    | @cons ls ls' lss lss' hls hlss =>
      exact .ok (sameInputs_of_reads ht (reads_registerSets h.left (ls :: lss))
        (reads_registerSets h.right (ls' :: lss')) (.cons hls hlss))

theorem checkCompatibility_withRules {r r' : Registry} (h : Registry.Agree t r r') :
    (checkCompatibility E.computeModels t r).1.mapError (CheckFault.map QueryFault.kind) =
      (checkCompatibility E.computeModels (t.withRules rules) r').1.mapError
        (CheckFault.map QueryFault.kind) := by
  have houtcome := ((simulates_withRules hE hrules ht).checkCompatibility h).outcome
  rw [checkCompatibility_mapFaults, checkCompatibility_mapFaults] at houtcome
  exact houtcome

end Check

/-! ## The universe -/

section Derivation

variable {E : Engine} {rules : List Rule} {scenarios : List (LitSet × LitSet)}
  {r registry registry' : Registry}
  (hscenarios : ∀ p ∈ scenarios, r.Registers p.1 ∧ r.Registers p.2) (hext : r.Extends registry)

theorem groundFacts_of_extends {a b : LitSet} (ha : r.Registers a) (hb : r.Registers b)
    (hext : r.Extends registry) : E.groundFacts rules a b registry = E.groundFacts rules a b r := by
  have hfacts : ∀ s ∈ [a, b], r.Registers s := by simpa using ⟨ha, hb⟩
  rw [Engine.groundFacts, Engine.groundFacts, Solver.program_eq_of_extends hfacts hext]

include hscenarios hext

theorem exists_of_derivedFrom_error {f : QueryFault}
    (h : E.derivedFrom rules scenarios registry = (.error f, registry')) :
    ∃ p ∈ scenarios, E.groundFacts rules p.1 p.2 r = .error f := by
  induction scenarios generalizing registry with
  | nil => cases h
  | cons p scenarios ih =>
    obtain ⟨hinput, houtput⟩ := hscenarios p List.mem_cons_self
    rw [Engine.derivedFrom, groundFacts_of_extends hinput houtput hext] at h
    split at h
    · next hf =>
      cases h
      exact ⟨p, List.mem_cons_self, hf⟩
    · next literals _ =>
      dsimp only at h
      split at h
      · cases h
      · next hrest =>
        cases h
        obtain ⟨q, hq, hf⟩ := ih (fun q hq => hscenarios q (List.mem_cons_of_mem p hq))
          (hext.trans (Registry.registerAll_extends registry literals)) hrest
        exact ⟨q, List.mem_cons_of_mem p hq, hf⟩

theorem exists_mem_derivedFrom_iff (hr : registry.WellFormed) {lits : List Lit}
    (h : E.derivedFrom rules scenarios registry = (.ok lits, registry')) :
    (∀ p ∈ scenarios, ∃ ls, E.groundFacts rules p.1 p.2 r = .ok ls) ∧
      ∀ l, (∃ i ∈ lits, registry'.get? i = some l) ↔
        ∃ p ∈ scenarios, ∃ ls, E.groundFacts rules p.1 p.2 r = .ok ls ∧ l ∈ ls := by
  induction scenarios generalizing registry lits with
  | nil =>
    cases h
    simp
  | cons p scenarios ih =>
    obtain ⟨hinput, houtput⟩ := hscenarios p List.mem_cons_self
    obtain ⟨literals, more, hliterals, hmore, rfl⟩ := exists_of_derivedFrom_cons h
    rw [groundFacts_of_extends hinput houtput hext] at hliterals
    have hgrown := Registry.registerAll_extends registry literals
    obtain ⟨hgrounds, hmem⟩ := ih (fun q hq => hscenarios q (List.mem_cons_of_mem p hq))
      (hext.trans hgrown) (hr.registerAll literals) hmore
    refine ⟨List.forall_mem_cons.2 ⟨⟨literals, hliterals⟩, hgrounds⟩, fun l => ?_⟩
    have hfirst : (∃ i ∈ (registry.registerAll literals).1, registry'.get? i = some l) ↔
        l ∈ literals := by
      constructor
      · rintro ⟨i, hi, hl⟩
        obtain ⟨m, hm, hi⟩ := (Registry.mem_registerAll_iff hr).1 hi
        cases (derivedFrom_extends hmore hi).symm.trans hl
        exact hm
      · intro hl
        obtain ⟨i, hi⟩ := Registry.exists_get?_registerAll (r := registry) hl
        exact ⟨i, (Registry.mem_registerAll_iff hr).2 ⟨l, hl, hi⟩, derivedFrom_extends hmore hi⟩
    have hscenario : (∃ ls, E.groundFacts rules p.1 p.2 r = .ok ls ∧ l ∈ ls) ↔ l ∈ literals := by
      simp [hliterals]
    rw [List.exists_mem_cons_iff, hscenario, ← hfirst, ← hmem]
    simp only [List.mem_append, or_and_right, exists_or]

end Derivation

section Universe

variable {t : Task} (ht : t.WellFormed)

include ht

theorem Task.WellFormed.registers_scenarios :
    ∀ p ∈ t.scenarios, t.registry.Registers p.1 ∧ t.registry.Registers p.2 := fun p hp =>
  (numbers_scenarios ht p hp).imp Registry.numbers_iff_registers.1
    Registry.numbers_iff_registers.1

theorem computeUniverse_cases (E : Engine) :
    (∃ f, (E.computeUniverse t).1 = .error f ∧
        ∃ p ∈ t.scenarios, E.groundFacts t.background p.1 p.2 t.registry = .error f) ∨
      ∃ univ registry, E.computeUniverse t = (.ok univ, registry) ∧
        (∀ p ∈ t.scenarios, ∃ ls, E.groundFacts t.background p.1 p.2 t.registry = .ok ls) ∧
        ∀ l, l ∈ registry.denote univ ↔
          ∃ p ∈ t.scenarios, ∃ ls, E.groundFacts t.background p.1 p.2 t.registry = .ok ls ∧
            l ∈ ls := by
  have hscenarios := ht.registers_scenarios
  rcases hderived : E.derivedFrom t.background t.scenarios t.registry with ⟨f | lits, registry⟩
  · refine .inl ⟨f, by rw [Engine.computeUniverse, hderived], ?_⟩
    exact exists_of_derivedFrom_error hscenarios (.refl _) hderived
  · obtain ⟨hgrounds, hmem⟩ :=
      exists_mem_derivedFrom_iff hscenarios (.refl _) ht.registry hderived
    refine .inr ⟨.ofList lits, registry, by rw [Engine.computeUniverse, hderived], hgrounds,
      fun l => ?_⟩
    rw [← hmem l]
    exact exists_congr fun i => and_congr_left' SortedSet.mem_ofList

end Universe

/-- In every scenario the solver finds the same facts with these rules as with the background. -/
def Solver.Engine.SameFacts (E : Engine) (t : Task) (rules : List Rule) : Prop :=
  ∀ p ∈ t.scenarios, ∀ ls ls', E.groundFacts t.background p.1 p.2 t.registry = .ok ls →
    E.groundFacts rules p.1 p.2 t.registry = .ok ls' → ∀ l, l ∈ ls' ↔ l ∈ ls

abbrev Task.SameFacts := Engine.builtIn.SameFacts

section Orders

variable {E : Engine} {t : Task} {rules : List Rule} (hrules : ∀ r, r ∈ rules ↔ r ∈ t.background)

include hrules

theorem sameFacts_of_isStratified (h : IsStratified t.background) : t.SameFacts rules :=
  fun _ _ _ _ hls hls' => Solver.mem_groundFacts_of_isStratified hrules h hls hls'

theorem computeUniverse_withRules (hE : E.IgnoresOrder) (ht : t.WellFormed) :
    (∃ f f', (E.computeUniverse t).1 = .error (.solver f) ∧
        (E.computeUniverse (t.withRules rules)).1 = .error (.solver f')) ∨
      ∃ univ univ' g g', E.computeUniverse t = (.ok univ, g) ∧
        E.computeUniverse (t.withRules rules) = (.ok univ', g') ∧
        (E.SameFacts t rules → g.denote univ = g'.denote univ') := by
  have ht' := ht.withRules rules
  have herror (p) (hp : p ∈ t.scenarios) {f : QueryFault} :=
    hE.groundFacts_error hrules (ht.registers_scenarios p hp).1
      (ht.registers_scenarios p hp).2 (f := f)
  have herror' (p) (hp : p ∈ t.scenarios) {f : QueryFault} :=
    hE.groundFacts_error (fun r => (hrules r).symm)
      (ht.registers_scenarios p hp).1 (ht.registers_scenarios p hp).2 (f := f)
  rcases computeUniverse_cases ht E with
    ⟨f, hf, p, hp, hfault⟩ | ⟨univ, g, huniv, hgrounds, hmem⟩
  all_goals
    rcases computeUniverse_cases ht' E with
      ⟨f', hf', p', hp', hfault'⟩ | ⟨univ', g', huniv', hgrounds', hmem'⟩
  · obtain ⟨e, -, rfl, -⟩ := herror p hp hfault
    obtain ⟨e', -, rfl, -⟩ := herror' p' hp' hfault'
    exact .inl ⟨e, e', hf, hf'⟩
  -- A fault in one order would be a fault in the other.
  · obtain ⟨-, e, -, he⟩ := herror p hp hfault
    obtain ⟨ls, hls⟩ := hgrounds' p hp
    cases he.symm.trans hls
  · obtain ⟨-, e, -, he⟩ := herror' p' hp' hfault'
    obtain ⟨ls, hls⟩ := hgrounds p' hp'
    cases he.symm.trans hls
  · refine .inr ⟨univ, univ', g, g', huniv, huniv', fun hsame => Set.ext fun l => ?_⟩
    rw [hmem, hmem']
    refine exists_congr fun p => and_congr_right fun hp => ?_
    obtain ⟨ls, hls⟩ := hgrounds p hp
    obtain ⟨ls', hls'⟩ := hgrounds' p hp
    have hfacts := hsame p hp ls ls' hls hls' l
    simp [hls, hls', hfacts]

end Orders

/-! ## The outcome -/

inductive BuildFault.SameKind : BuildFault → BuildFault → Prop
  | conflict (c) : SameKind (.conflict c) (.conflict c)
  | query {e f} : e.kind = f.kind → SameKind (.query e) (.query f)

theorem BuildFault.sameKind_ofCheck {e f : CheckFault QueryFault}
    (h : e.map QueryFault.kind = f.map QueryFault.kind) : (ofCheck e).SameKind (ofCheck f) := by
  cases e with
  | conflict c =>
    cases f with
    | conflict _ =>
      cases h
      exact .conflict c
    | solver _ => cases h
  | solver e =>
    cases f with
    | conflict _ => cases h
    | solver f => exact .query (CheckFault.solver.inj h)

section Builds

variable {E : Engine} {t : Task} {learning : LearningTask}

theorem buildTask_of_computeUniverse_error {f : QueryFault}
    (h : (E.computeUniverse t).1 = .error f) :
    E.buildTask t = ⟨none, .error (.query f)⟩ := by
  unfold Engine.buildTask
  split
  · next hf =>
    rw [hf] at h
    cases h
    rfl
  · next huniv =>
    rw [huniv] at h
    cases h

theorem result_of_checkCompatibility (ht : t.WellFormed) {univ : LitSet} {registry : Registry}
    (huniv : E.computeUniverse t = (.ok univ, registry)) :
    match (checkCompatibility E.computeModels t registry).1 with
    | .error e => (E.buildTask t).result = .error (.ofCheck e)
    | .ok () => ∃ learning, (E.buildTask t).result = .ok learning := by
  have hresult := result_of_computeUniverse ht huniv
  generalize checkCompatibility E.computeModels t registry = outcome at hresult ⊢
  rcases outcome with ⟨e | ⟨⟨⟩⟩, grown⟩
  · exact hresult
  · obtain ⟨learning, hresult, -⟩ := hresult
    exact ⟨learning, hresult⟩

theorem Solver.Engine.Build.numbersUniverse (b : E.Build t learning) (ht : t.WellFormed) :
    t.registry.NumbersUniverse b.registry b.univ where
  wellFormed := (b.grounded_extends ht).1
  grows := b.extends_grounded.trans (b.grounded_extends ht).2
  normal := normal_computeUniverse b.computes
  registers := (registers_computeUniverse ht.registry b.computes).mono (b.grounded_extends ht).2

theorem Solver.Engine.Build.denote_univ (b : E.Build t learning) (ht : t.WellFormed) :
    b.registry.denote b.univ = b.grounded.denote b.univ :=
  Registry.denote_of_extends (registers_computeUniverse ht.registry b.computes)
    (b.grounded_extends ht).2

end Builds

section Outcome

variable {E : Engine} (hE : E.IgnoresOrder) {t : Task} {rules : List Rule}
  (hrules : ∀ r, r ∈ rules ↔ r ∈ t.background) (ht : t.WellFormed)

include hE hrules ht

theorem result_withRules :
    (∃ e f, (E.buildTask t).result = .error e ∧
        (E.buildTask (t.withRules rules)).result = .error f ∧ e.SameKind f) ∨
      ∃ learning learning', (E.buildTask t).result = .ok learning ∧
        (E.buildTask (t.withRules rules)).result = .ok learning' := by
  have ht' := ht.withRules rules
  rcases computeUniverse_withRules hrules hE ht with
    ⟨f, f', hf, hf'⟩ | ⟨univ, univ', g, g', huniv, huniv', -⟩
  · left
    exact ⟨_, _, congrArg Built.result (buildTask_of_computeUniverse_error hf),
      congrArg Built.result (buildTask_of_computeUniverse_error hf'), .query rfl⟩
  have hresult := result_of_checkCompatibility ht huniv
  have hresult' := result_of_checkCompatibility ht' huniv'
  have hagree : Registry.Agree t g g' :=
    ⟨⟨wellFormed_computeUniverse ht.registry huniv, computeUniverse_extends huniv⟩,
      wellFormed_computeUniverse ht'.registry huniv',
      computeUniverse_extends (t := t.withRules rules) huniv'⟩
  have hcheck := checkCompatibility_withRules hE hrules ht.examples hagree
  generalize (checkCompatibility E.computeModels t g).1 = x,
    (checkCompatibility E.computeModels (t.withRules rules) g').1 = y at hresult hresult' hcheck
  rcases x with e | ⟨⟩
  all_goals rcases y with f | ⟨⟩
  · exact .inl ⟨_, _, hresult, hresult', BuildFault.sameKind_ofCheck (Except.error.inj hcheck)⟩
  · cases hcheck
  · cases hcheck
  · obtain ⟨learning, hlearning⟩ := hresult
    obtain ⟨learning', hlearning'⟩ := hresult'
    exact .inr ⟨learning, learning', hlearning, hlearning'⟩

end Outcome

/-! The size of a universe and the number of its predicates do not depend on the numbers. -/

theorem Registry.ncard_denote {r : Registry} (hr : r.WellFormed) {s : LitSet} (hs : s.Normal)
    (hregisters : r.Registers s) : (r.denote s).ncard = s.size := by
  obtain ⟨ls, hls⟩ := exists_resolve hregisters
  have hget := resolve_eq_ok_iff.1 hls
  have hnodup : ls.Nodup := by
    have hinjective : ∀ i ∈ s.items, ∀ j ∈ s.items, r.get? i = r.get? j → i = j := by
      intro i hi j _ hij
      obtain ⟨l, hl⟩ := hregisters i hi
      exact get?_injective hr hl (hij ▸ hl)
    exact .of_map some (hget ▸ hs.nodup.map_on hinjective)
  have hset : r.denote s = (ls.toFinset : Set Literal) := by
    ext l
    rw [← mem_of_resolve hls]
    simp
  rw [hset, Set.ncard_coe_finset, List.toFinset_card_of_nodup hnodup]
  simpa [SortedSet.size] using (congrArg List.length hget).symm

theorem universeStats_eq_of_denote_eq {r r' : Registry} {s s' : LitSet} (hr : r.WellFormed)
    (hr' : r'.WellFormed) (hs : s.Normal) (hs' : s'.Normal) (hregisters : r.Registers s)
    (hregisters' : r'.Registers s') (h : r.denote s = r'.denote s') :
    universeStats s r = universeStats s' r' := by
  rw [universeStats_eq (Registry.numbers_iff_registers.2 hregisters),
    universeStats_eq (Registry.numbers_iff_registers.2 hregisters'), h,
    ← Registry.ncard_denote hr hs hregisters, ← Registry.ncard_denote hr' hs' hregisters', h]

section Learning

variable {E : Engine} {t : Task} {rules : List Rule} (ht : t.WellFormed)
  {learning learning' : LearningTask} (b : E.Build t learning)
  (b' : E.Build (t.withRules rules) learning')

include ht b b'

theorem space_withRules : learning.space = learning'.space := by
  have ht' := ht.withRules rules
  exact space_eq_of_synthesize (t := { t with registry := b.registry })
    (u := { t.withRules rules with registry := b'.registry }) rfl ht.examples
    (b.numbersUniverse ht) (b'.numbersUniverse ht') b.synthesizes b'.synthesizes

theorem sameDemands_withRules
    (hsame : b.grounded.denote b.univ = b'.grounded.denote b'.univ) :
    learning.SameDemands learning' := by
  have ht' := ht.withRules rules
  rw [← b.denote_univ ht, ← b'.denote_univ ht'] at hsame
  exact sameDemands_of_synthesize (t := { t with registry := b.registry })
    (u := { t.withRules rules with registry := b'.registry }) rfl ht.examples
    (b.numbersUniverse ht) (b'.numbersUniverse ht') b.synthesizes b'.synthesizes hsame

end Learning

/-- The builds of the tasks fail in the same way, or they end with the same universe and the same
learning task, but for the order in which literals are numbered and excluded. -/
inductive Solver.Engine.SameResult (E : Engine) (t u : Task) : Prop
  | fault {e f : BuildFault} : (E.buildTask t).result = .error e →
      (E.buildTask u).result = .error f → e.SameKind f → SameResult E t u
  | learning {univ univ' : LitSet} {g g' : Registry} {learning learning' : LearningTask} :
      E.computeUniverse t = (.ok univ, g) → E.computeUniverse u = (.ok univ', g') →
      g.denote univ = g'.denote univ' → (E.buildTask t).result = .ok learning →
      (E.buildTask u).result = .ok learning' → learning.SameDemands learning' →
      SameResult E t u

abbrev Task.SameResult := Engine.builtIn.SameResult

section Orders

variable {E : Engine} (hE : E.IgnoresOrder) {t : Task} {rules : List Rule}
  (hrules : ∀ r, r ∈ rules ↔ r ∈ t.background) (ht : t.WellFormed) (hfacts : E.SameFacts t rules)

include hE hrules ht hfacts

theorem sameResult_withRules : E.SameResult t (t.withRules rules) := by
  rcases result_withRules hE hrules ht with
    ⟨e, f, he, hf, hsame⟩ | ⟨learning, learning', hlearning, hlearning'⟩
  · exact .fault he hf hsame
  obtain ⟨b⟩ := nonempty_build hlearning
  obtain ⟨b'⟩ := nonempty_build hlearning'
  rcases computeUniverse_withRules hrules hE ht with
    ⟨f, -, hf, -⟩ | ⟨univ, univ', g, g', huniv, huniv', hdenote⟩
  · rw [b.computes] at hf
    cases hf
  cases huniv.symm.trans b.computes
  cases huniv'.symm.trans b'.computes
  exact .learning huniv huniv' (hdenote hfacts) hlearning hlearning'
    (sameDemands_withRules ht b b' (hdenote hfacts))

theorem stats_withRules : (E.buildTask t).stats = (E.buildTask (t.withRules rules)).stats := by
  have ht' := ht.withRules rules
  rcases computeUniverse_withRules hrules hE ht with
    ⟨f, f', hf, hf'⟩ | ⟨univ, univ', g, g', huniv, huniv', hdenote⟩
  · rw [buildTask_of_computeUniverse_error hf, buildTask_of_computeUniverse_error hf']
  · have hstats := universeStats_eq_of_denote_eq (wellFormed_computeUniverse ht.registry huniv)
      (wellFormed_computeUniverse ht'.registry huniv') (normal_computeUniverse huniv)
      (normal_computeUniverse huniv') (registers_computeUniverse ht.registry huniv)
      (registers_computeUniverse ht'.registry huniv') (hdenote hfacts)
    simp only [Engine.buildTask, huniv, huniv', hstats]

end Orders

/-! ## Texts -/

/-- The texts can be read, with the same examples and, in any order and with repeats, the same
rules. -/
structure Rearranged (text text' : String) (d d' : Document) : Prop where
  left : parseDocument text.toList = .ok d
  right : parseDocument text'.toList = .ok d'
  scenarios : d'.scenarios = d.scenarios
  rules : ∀ r, r ∈ d'.rules ↔ r ∈ d.rules

namespace Rearranged

variable {text text' : String} {d d' : Document} (h : Rearranged text text' d d')

include h

theorem task_eq : d'.task = d.task.withRules d'.rules := by
  simp [Document.task, Task.withRules, h.scenarios]

theorem wellFormed : d.task.WellFormed := (wellSpelled_of_parseDocument h.left).task

end Rearranged

/-- Whether a build fails, and how, does not depend on the order of the rules, nor do the words for
rules, even where the facts do. -/
theorem space_rearranged {text text' : String} {d d' : Document}
    (h : Rearranged text text' d d') :
    (∃ e f, (buildTask d.task).result = .error e ∧ (buildTask d'.task).result = .error f ∧
        e.SameKind f) ∨
      ∃ learning learning', (buildTask d.task).result = .ok learning ∧
        (buildTask d'.task).result = .ok learning' ∧ learning.space = learning'.space := by
  rw [h.task_eq]
  rcases result_withRules Solver.ignoresOrder_builtIn h.rules h.wellFormed with
    hfault | ⟨learning, learning', hlearning, hlearning'⟩
  · exact .inl hfault
  · obtain ⟨b⟩ := nonempty_build hlearning
    obtain ⟨b'⟩ := nonempty_build hlearning'
    exact .inr ⟨learning, learning', hlearning, hlearning',
      space_withRules h.wellFormed b b'⟩

/-- If the facts that the solver finds do not depend on the order of the rules, neither does what
comes of the text. -/
theorem buildTask_rearranged {text text' : String} {d d' : Document}
    (h : Rearranged text text' d d') (hfacts : d.task.SameFacts d'.rules) :
    (buildTask d.task).stats = (buildTask d'.task).stats ∧ d.task.SameResult d'.task := by
  rw [h.task_eq]
  exact ⟨stats_withRules Solver.ignoresOrder_builtIn h.rules h.wellFormed hfacts,
    sameResult_withRules Solver.ignoresOrder_builtIn h.rules h.wellFormed hfacts⟩

def absentLetter : Document where
  rules := [⟨some ⟨"c", []⟩, [.atom false ⟨"b", []⟩]⟩,
    ⟨some ⟨"d", []⟩, [.atom false ⟨"b", []⟩, .atom true ⟨"e", []⟩]⟩]
  scenarios := [⟨[⟨"a", []⟩], [["a", "b", "f"].map (⟨·, []⟩), ["a", "b", "g"].map (⟨·, []⟩)]⟩,
    ⟨[⟨"b", []⟩], [["a", "b", "h"].map (⟨·, []⟩)]⟩]

def absentLetterTurned : Document :=
  { absentLetter with rules := absentLetter.rules[1] :: absentLetter.rules.reverse }

theorem rearranged_absentLetter :
    Rearranged
      ("c :- b.\nd :- b, not e.\n" ++
        "I: a\nO: \x7ba b f\x7d \x7ba b g\x7d\nI: b\nO: \x7ba b h\x7d\n")
      ("d :- b, not e.\nd :- b, not e.\nc :- b.\n" ++
        "I: a\nO: \x7ba b f\x7d \x7ba b g\x7d\nI: b\nO: \x7ba b h\x7d\n")
      absentLetter absentLetterTurned where
  left := by cbv
  right := by cbv
  scenarios := rfl
  rules r := by
    have hturned : absentLetterTurned.rules ⊆ absentLetter.rules := by decide
    have hback : absentLetter.rules ⊆ absentLetterTurned.rules := by decide
    exact ⟨fun hr => hturned hr, fun hr => hback hr⟩

theorem isStratified_absentLetter : IsStratified absentLetter.rules := by
  refine ⟨fun s => if s.name = "e" then 0 else 1, ?_⟩
  simp [absentLetter, Rule.Climbs, Literal.signature]

theorem absentLetter_rearranged :
    (computeUniverse absentLetter.task).2 ≠ (computeUniverse absentLetterTurned.task).2 ∧
      (∃ learning, (buildTask absentLetter.task).result = .ok learning) ∧
      absentLetter.task.SameResult absentLetterTurned.task := by
  have hlast : (computeUniverse absentLetter.task).2.literals.getLast? = some ⟨"c", []⟩ := by cbv
  have hlast' : (computeUniverse absentLetterTurned.task).2.literals.getLast? =
      some ⟨"d", []⟩ := by cbv
  refine ⟨fun heq => ?_, ⟨_, by cbv⟩, ?_⟩
  · rw [heq, hlast'] at hlast
    exact absurd hlast (by decide)
  exact (buildTask_rearranged rearranged_absentLetter
    (sameFacts_of_isStratified rearranged_absentLetter.rules isStratified_absentLetter)).2

theorem buildTask_rearranged_of_isStratified {text text' : String} {d d' : Document}
    (h : Rearranged text text' d d') (hstratified : IsStratified d.rules) :
    (buildTask d.task).stats = (buildTask d'.task).stats ∧ d.task.SameResult d'.task := by
  have hfacts := sameFacts_of_isStratified (t := d.task) h.rules hstratified
  rw [h.task_eq]
  exact ⟨stats_withRules Solver.ignoresOrder_builtIn h.rules h.wellFormed hfacts,
    sameResult_withRules Solver.ignoresOrder_builtIn h.rules h.wellFormed hfacts⟩

def cyclicNegation : Document where
  rules := [⟨some ⟨"w", []⟩, [.atom true ⟨"s", []⟩]⟩,
    ⟨some ⟨"s", []⟩, [.atom false ⟨"q", []⟩, .atom true ⟨"w", []⟩]⟩]
  scenarios := [⟨[⟨"a", []⟩], [[⟨"a", []⟩]]⟩]

def cyclicNegationTurned : Document :=
  { cyclicNegation with rules := cyclicNegation.rules.reverse }

/-- Where negation is cyclic the facts may depend on the order: w is one if it has turned out that s
does not follow when its rule is grounded. -/
theorem cyclicNegation_facts :
    (computeUniverse cyclicNegation.task).1 = .ok ⟨[1, 2]⟩ ∧
      (computeUniverse cyclicNegationTurned.task).1 = .ok ⟨[1]⟩ := by
  constructor <;> cbv

end AnswerSetLearning
