import AnswerSetLearning.Proofs.Induction.Agreement
import AnswerSetLearning.Proofs.Renumbering
import AnswerSetLearning.Proofs.ThirdCondition

namespace AnswerSetLearning

open Solver (Engine ModelQuery computeModels compileProgram stableModels GroundAtom IsStable)

/-- The second example tells the output `s` of the first apart from all that follows from its own
input: no output of its own that contains the input of the first is comparable with `s`, and by
the definite rules its input has a model, in which the input of the first does not hold. -/
structure TellsApart (registry : Registry) (definite : List Rule) (e₁ e₂ : Example) (s : LitSet) :
    Prop where
  incomparable : ∀ s₂ ∈ e₂.outputs, e₁.input ⊆ s₂ → ¬ s ⊆ s₂ ∧ ¬ s₂ ⊆ s
  model : ∃ clauses M, compileProgram definite [e₂.input] registry = .ok clauses ∧
    IsStable clauses M ∧ ¬ registry.denote e₁.input ⊆ GroundAtom.literal '' M

/-- The second example may follow the first in the task. -/
def Task.Compatible (t : Task) (e₁ e₂ : Example) : Prop :=
  ∀ s ∈ e₁.outputs, s ∉ e₂.outputs → e₂.input ⊆ s →
    TellsApart t.registry t.definiteRules e₁ e₂ s

namespace Solver.Engine

/-- The solver finds models, and the literals are neither all in the one that it finds first nor
all in one of those that it finds when it is asked for all. -/
structure Refutes (E : Engine) (rules : List Rule) (A : Set Literal) : Prop where
  first : ∃ ls lss, E.models 1 rules = .ok (ls :: lss) ∧ ¬ A ⊆ {l | l ∈ ls}
  all : ∃ ls lss, E.models 0 rules = .ok (ls :: lss) ∧ ∀ m ∈ ls :: lss, ¬ A ⊆ {l | l ∈ m}

structure TellsApart (E : Engine) (registry : Registry) (definite : List Rule) (e₁ e₂ : Example)
    (s : LitSet) : Prop where
  incomparable : ∀ s₂ ∈ e₂.outputs, e₁.input ⊆ s₂ → ¬ s ⊆ s₂ ∧ ¬ s₂ ⊆ s
  model : ∃ rules, program definite [e₂.input] registry = .ok rules ∧
    E.Refutes rules (registry.denote e₁.input)

/-- To this solver the second example may follow the first in the task. -/
def Compatible (E : Engine) (t : Task) (e₁ e₂ : Example) : Prop :=
  ∀ s ∈ e₁.outputs, s ∉ e₂.outputs → e₂.input ⊆ s →
    E.TellsApart t.registry t.definiteRules e₁ e₂ s

end Solver.Engine

section Outputs

variable {e₁ e₂ : Example} (he₁ : e₁.Normal) (he₂ : e₂.Normal)

include he₁ he₂

theorem violatesInclusion_iff {s : LitSet} (hs₁ : s ∈ e₁.outputs) (hs₂ : s ∉ e₂.outputs) :
    violatesInclusion e₁ e₂ s = true ↔
      ∃ s₂ ∈ e₂.outputs, e₁.input ⊆ s₂ ∧ (s ⊆ s₂ ∨ s₂ ⊆ s) := by
  simp only [violatesInclusion, List.any_eq_true, Bool.and_eq_true, Bool.or_eq_true, bne_iff_ne]
  refine exists_congr fun s₂ => and_congr_right fun hmem => ?_
  have hs := he₁.outputs s hs₁
  have hnormal := he₂.outputs s₂ hmem
  rw [SortedSet.isSubset_iff he₁.input hnormal, SortedSet.isSubset_iff hs hnormal,
    SortedSet.isSubset_iff hnormal hs, and_iff_left_of_imp]
  rintro ⟨-, hsub | hsub⟩ hsize
  · exact hs₂ (hs.eq_of_subset_of_size_le hnormal hsub hsize.ge ▸ hmem)
  · exact hs₂ (hnormal.eq_of_subset_of_size_le hs hsub hsize.le ▸ hmem)

end Outputs

section Answers

variable {t : Task} {r : Registry}

/-- The solver is asked about the same program from every registry that serves the task. -/
theorem exists_answer {E : Engine} (hr : r.Serves t) {s : LitSet}
    (hs : t.registry.Registers s) {rules : List Rule}
    (hrules : Solver.program t.definiteRules [s] t.registry = .ok rules) (limit : Nat) :
    (∃ f, (E.computeModels ⟨t.definiteRules, s, limit⟩ r).1 = .error f ∧
        ∀ ls lss, E.models limit rules ≠ .ok (ls :: lss)) ∨
      ∃ ls lss ms, E.models limit rules = .ok (ls :: lss) ∧
        (E.computeModels ⟨t.definiteRules, s, limit⟩ r).1 = .ok ms ∧
        List.Forall₂ t.Reads ms (ls :: lss) := by
  have hprogram : Solver.program t.definiteRules [s] r = .ok rules :=
    (Solver.program_eq_of_extends (List.forall_mem_singleton.2 hs) hr.2).trans hrules
  cases hmodels : E.models limit rules with
  | error f => exact .inl ⟨.solver f, by simp [Engine.computeModels, hprogram, hmodels], by simp⟩
  | ok lss =>
    cases lss with
    | nil => exact .inl ⟨.noModel, by simp [Engine.computeModels, hprogram, hmodels], by simp⟩
    | cons ls lss =>
      refine .inr ⟨ls, lss, (r.registerSets (ls :: lss)).1, rfl, ?_, reads_registerSets hr _⟩
      simp [Engine.computeModels, hprogram, hmodels]

section Inputs

variable {e : Example} (he : e.RegisteredIn t.registry) {ms : List LitSet}
  {lss : List (List Literal)} (h : List.Forall₂ t.Reads ms lss)

include he h

theorem any_input_eq_false_iff :
    ms.any e.input.isSubset = false ↔ ∀ ls ∈ lss, ¬ t.registry.denote e.input ⊆ {l | l ∈ ls} := by
  induction h with
  | nil => simp
  | cons hm _ ih =>
    rw [List.any_cons, Bool.or_eq_false_iff, ih, List.forall_mem_cons, Bool.eq_false_iff, Ne,
      hm e.input he.input he.registers_input]

theorem head?_any_input_eq_false_iff :
    ms.head?.any e.input.isSubset = false ↔
      ∀ ls ∈ lss.head?, ¬ t.registry.denote e.input ⊆ {l | l ∈ ls} := by
  cases h with
  | nil => simp
  | cons hm _ =>
    rw [List.head?_cons, Option.any_some, Bool.eq_false_iff, Ne,
      hm e.input he.input he.registers_input]
    simp

end Inputs

section Questions

variable {E : Engine} {e₁ e₂ : Example} (he₂ : e₂.RegisteredIn t.registry) (hr : r.Serves t)
  {rules : List Rule} (hrules : Solver.program t.definiteRules [e₂.input] t.registry = .ok rules)

include he₂ hr hrules

theorem question_iff {limit : Nat} {passes : List LitSet → Prop}
    {refutes : List (List Literal) → Prop}
    (h : ∀ ms lss, List.Forall₂ t.Reads ms lss → (passes ms ↔ refutes lss)) :
    (∃ ms, (E.computeModels ⟨t.definiteRules, e₂.input, limit⟩ r).1 = .ok ms ∧ passes ms) ↔
      ∃ ls lss, E.models limit rules = .ok (ls :: lss) ∧ refutes (ls :: lss) := by
  rcases exists_answer (E := E) hr he₂.registers_input hrules limit with
    ⟨f, hf, hnone⟩ | ⟨ls, lss, ms, hls, hms, hreads⟩
  · simp [hf, hnone]
  constructor
  · rintro ⟨ms', hms', hpasses⟩
    cases hms.symm.trans hms'
    exact ⟨ls, lss, hls, (h ms _ hreads).1 hpasses⟩
  · rintro ⟨ls', lss', hls', hrefutes⟩
    cases hls.symm.trans hls'
    exact ⟨ms, hms, (h ms _ hreads).2 hrefutes⟩

variable (he₁ : e₁.RegisteredIn t.registry)

include he₁

theorem first_question_iff :
    (∃ ms, (E.computeModels ⟨t.definiteRules, e₂.input, 1⟩ r).1 = .ok ms ∧
        ms.head?.any e₁.input.isSubset = false) ↔
      ∃ ls lss, E.models 1 rules = .ok (ls :: lss) ∧
        ¬ t.registry.denote e₁.input ⊆ {l | l ∈ ls} := by
  rw [question_iff he₂ hr hrules fun ms lss hreads => head?_any_input_eq_false_iff he₁ hreads]
  simp

theorem all_question_iff :
    (∃ ms, (E.computeModels ⟨t.definiteRules, e₂.input, 0⟩ r).1 = .ok ms ∧
        ms.any e₁.input.isSubset = false) ↔
      ∃ ls lss, E.models 0 rules = .ok (ls :: lss) ∧
        ∀ m ∈ ls :: lss, ¬ t.registry.denote e₁.input ⊆ {l | l ∈ m} :=
  question_iff he₂ hr hrules fun _ _ hreads => any_input_eq_false_iff he₁ hreads

end Questions

end Answers

/-! ## Runs -/

section Runs

variable {α σ ε : Type} {check : α → σ → Except (CheckFault ε) Unit × σ} {P : σ → Prop}
  {Passes : α → Prop}

theorem checkEach_ok_iff (hcheck : ∀ a s, P s → P (check a s).2) {as : List α}
    (hpasses : ∀ a ∈ as, ∀ s, P s → ((check a s).1 = .ok () ↔ Passes a)) {s : σ} (hs : P s) :
    (checkEach check as s).1 = .ok () ↔ ∀ a ∈ as, Passes a := by
  constructor
  · intro h a ha
    obtain ⟨s, hs, hok⟩ := checkEach_ok hcheck hs h a ha
    exact (hpasses a ha s hs).1 hok
  · intro h
    cases hrun : (checkEach check as s).1 with
    | ok _ => rfl
    | error e =>
      obtain ⟨a, ha, s, hs, herror⟩ := checkEach_error (fun a _ => hcheck a) hs hrun
      rw [(hpasses a ha s hs).2 (h a ha)] at herror
      cases herror

theorem forall_mem_pairs_iff {l : List α} {R : α → α → Prop} :
    (∀ p ∈ pairs l, R p.1 p.2) ↔ l.Pairwise R := by
  induction l with
  | nil => simp [pairs]
  | cons a l ih =>
    rw [pairs, List.forall_mem_append, List.forall_mem_map, ih, List.pairwise_cons]

end Runs

section Check

variable {E : Engine} {t : Task}

/-- An output passes if it is no matter of the later example, or if it has nothing to do with the
outputs of that, and the solver answers both questions to the same effect. -/
theorem checkOutput_eq_ok_iff {σ ε : Type} {ask : ModelQuery → σ → Except ε (List LitSet) × σ}
    {definite : List Rule} {e₁ e₂ : Example} {conflict : Condition → Conflict} {s : LitSet}
    {state : σ} :
    (checkOutput ask definite e₁ e₂ conflict s state).1 = .ok () ↔
      (e₂.input.isSubset s = true → violatesInclusion e₁ e₂ s = false ∧
        (∃ ms, (ask ⟨definite, e₂.input, 1⟩ state).1 = .ok ms ∧
          ms.head?.any e₁.input.isSubset = false) ∧
        ∃ ms, (ask ⟨definite, e₂.input, 0⟩ (ask ⟨definite, e₂.input, 1⟩ state).2).1 = .ok ms ∧
          ms.any e₁.input.isSubset = false) := by
  unfold checkOutput
  cases e₂.input.isSubset s
  · simp
  cases violatesInclusion e₁ e₂ s
  swap
  · simp
  rcases ask ⟨definite, e₂.input, 1⟩ state with ⟨e | ms, state'⟩
  · simp
  dsimp only
  cases hfirst : ms.head?.any e₁.input.isSubset
  swap
  · simp [hfirst]
  rcases ask ⟨definite, e₂.input, 0⟩ state' with ⟨e | ms', state''⟩
  · simp
  · simp only [hfirst, Except.ok.injEq, exists_eq_left', true_and, forall_const]
    generalize ms'.any e₁.input.isSubset = found
    cases found <;> simp

theorem checkOutput_ok_iff {e₁ e₂ : Example} (he₁ : e₁.RegisteredIn t.registry)
    (he₂ : e₂.RegisteredIn t.registry) (conflict : Condition → Conflict) {s : LitSet}
    (hs₁ : s ∈ e₁.outputs) (hs₂ : s ∉ e₂.outputs) {r : Registry} (hr : r.Serves t) :
    (checkOutput E.computeModels t.definiteRules e₁ e₂ conflict s r).1 = .ok () ↔
      (e₂.input ⊆ s → E.TellsApart t.registry t.definiteRules e₁ e₂ s) := by
  obtain ⟨rules, hrules⟩ := Solver.exists_program t.definiteRules
    (List.forall_mem_singleton.2 he₂.registers_input)
  have hagain : (E.computeModels ⟨t.definiteRules, e₂.input, 1⟩ r).2.Serves t :=
    computeModels_invariant _ _ hr
  rw [checkOutput_eq_ok_iff, SortedSet.isSubset_iff he₂.input (he₁.outputs s hs₁),
    first_question_iff he₂ hr hrules he₁, all_question_iff he₂ hagain hrules he₁,
    Bool.eq_false_iff, Ne, violatesInclusion_iff he₁.toNormal he₂.toNormal hs₁ hs₂]
  refine imp_congr_right fun _ => ?_
  constructor
  · rintro ⟨hnot, hfirst, hall⟩
    push Not at hnot
    exact ⟨hnot, rules, hrules, hfirst, hall⟩
  · rintro ⟨hincomparable, rules', hrules', hrefutes⟩
    cases hrules.symm.trans hrules'
    refine ⟨?_, hrefutes.first, hrefutes.all⟩
    push Not
    exact hincomparable

theorem checkPair_ok_iff {e₁ e₂ : Example} (he₁ : e₁.RegisteredIn t.registry)
    (he₂ : e₂.RegisteredIn t.registry) (i j : Int) {r : Registry} (hr : r.Serves t) :
    (checkPair E.computeModels t.definiteRules ((e₁, i), (e₂, j)) r).1 = .ok () ↔
      E.Compatible t e₁ e₂ := by
  have houtput (s : LitSet) (hs : s ∈ distinctOutputs e₁ e₂) (r : Registry)
      (hr : r.Serves t) :=
    checkOutput_ok_iff (E := E) he₁ he₂ (fun c => ⟨c, i, j⟩) (mem_distinctOutputs.1 hs).1
      (mem_distinctOutputs.1 hs).2 hr
  rw [checkPair, checkEach_ok_iff (checkOutput_invariant computeModels_invariant) houtput hr]
  simp only [mem_distinctOutputs, and_imp, Engine.Compatible]

/-- With any solver, a check passes when every two examples are compatible in the order of the
task. -/
theorem checkCompatibility_ok_iff (ht : ∀ e ∈ t.examples, e.RegisteredIn t.registry)
    {r : Registry} (hr : r.Serves t) :
    (checkCompatibility E.computeModels t r).1 = .ok () ↔
      t.examples.Pairwise (E.Compatible t) := by
  have hexamples : (t.examples.zipIdx.map fun x => (x.1, Int.ofNat x.2)).map Prod.fst =
      t.examples := by
    rw [List.map_map]
    exact List.zipIdx_map_fst 0 t.examples
  have hpair (p) (hp : p ∈ pairs (t.examples.zipIdx.map fun x => (x.1, Int.ofNat x.2)))
      (r : Registry) (hr : r.Serves t) :=
    checkPair_ok_iff (E := E) (ht _ (mem_examples_of_mem_pairs hp).1)
      (ht _ (mem_examples_of_mem_pairs hp).2) p.1.2 p.2.2 hr
  rw [checkCompatibility, checkEach_ok_iff (checkPair_invariant computeModels_invariant) hpair hr]
  refine (forall_mem_pairs_iff (R := fun x y : Example × Int => E.Compatible t x.1 y.1)).trans ?_
  rw [← List.pairwise_map (f := Prod.fst), hexamples]

end Check

section BuiltIn

variable {t : Task} {e₁ e₂ : Example}

theorem refutes_builtIn_iff {definite : List Rule} (hdefinite : ∀ r ∈ definite, r.isDefinite = true)
    {registry : Registry} {facts : LitSet} {A : Set Literal} :
    (∃ rules, Solver.program definite [facts] registry = .ok rules ∧
        Engine.builtIn.Refutes rules A) ↔
      ∃ clauses M, compileProgram definite [facts] registry = .ok clauses ∧
        IsStable clauses M ∧ ¬ A ⊆ GroundAtom.literal '' M := by
  have himage (model : List GroundAtom) :
      GroundAtom.literal '' {a | a ∈ model} = {l | l ∈ model.map GroundAtom.literal} := by
    ext l
    simp
  constructor
  · rintro ⟨rules, hrules, ⟨ls, lss, hls, hnot⟩, -⟩
    obtain ⟨clauses, hcompile, hmodels⟩ := Engine.builtIn_models_eq_ok_iff.1 hls
    have hclauses := Solver.exists_program_iff.1 ⟨rules, hrules, hcompile⟩
    rcases Solver.stableModels_of_definite (Solver.isSafe_of_compileProgram hclauses)
      (Solver.isDefinite_of_compileProgram hdefinite hclauses) with
      ⟨-, hone⟩ | ⟨model, hstable, hone⟩
    · simp [hone] at hmodels
    · rw [hone] at hmodels
      cases hmodels
      exact ⟨clauses, _, hclauses, (hstable _).2 rfl, himage model ▸ hnot⟩
  · rintro ⟨clauses, M, hclauses, hM, hnot⟩
    obtain ⟨rules, hrules, hcompile⟩ := Solver.exists_program_iff.2 hclauses
    rcases Solver.stableModels_of_definite (Solver.isSafe_of_compileProgram hclauses)
      (Solver.isDefinite_of_compileProgram hdefinite hclauses) with
      ⟨hnone, -⟩ | ⟨model, hstable, hone⟩
    · exact absurd hM (hnone M)
    obtain rfl := (hstable M).1 hM
    rw [himage] at hnot
    have hmodels (limit : Nat) :
        Engine.builtIn.models limit rules = .ok [model.map GroundAtom.literal] :=
      Engine.builtIn_models_eq_ok_iff.2 ⟨clauses, hcompile, by rw [hone]; rfl⟩
    exact ⟨rules, hrules, ⟨_, _, hmodels 1, hnot⟩, _, _, hmodels 0, by simpa using hnot⟩

theorem compatible_builtIn_iff : Engine.builtIn.Compatible t e₁ e₂ ↔ t.Compatible e₁ e₂ := by
  refine forall₄_congr fun s _ _ _ => ?_
  have hmodel := @refutes_builtIn_iff t.definiteRules t.isDefinite_of_mem_definiteRules t.registry
    e₂.input (t.registry.denote e₁.input)
  exact ⟨fun h => ⟨h.incomparable, hmodel.1 h.model⟩, fun h => ⟨h.incomparable, hmodel.2 h.model⟩⟩

end BuiltIn

/-! ## What a passed check guarantees -/

theorem accepts_of_checkCompatibility {E : Engine} (hE : E.KeepsFacts) {t : Task}
    (ht : t.WellFormed) (hfits : t.NumbersFit) {r : Registry} (hr : r.WellFormed)
    (hext : t.registry.Extends r) (hcheck : (checkCompatibility E.computeModels t r).1 = .ok ())
    {i j : Nat} (hij : i < j) {e₁ e₂ : Example} (h₁ : t.examples[i]? = some e₁)
    (h₂ : t.examples[j]? = some e₂) (hinput : e₁.input ⊆ e₂.input) {s : LitSet}
    (hs : s ∈ e₁.outputs) (hsub : e₂.input ⊆ s) : s ∈ e₂.outputs := by
  have he₁ := ht.examples e₁ (List.mem_of_getElem? h₁)
  have he₂ := ht.examples e₂ (List.mem_of_getElem? h₂)
  by_contra hs₂
  exact not_subset_of_checkCompatibility hE hr hext hcheck hij h₁ h₂ he₁ he₂
    (ht.readable hfits e₂.input) hs hs₂ hsub hinput

/-- After a passed check the outputs of an example are outputs of every later example with a
larger input, as far as they contain that input. So of two examples with the same input that
only add to it, the later one accepts all that the earlier one does. -/
theorem later_accepts_outputs {text : String} {t : Task} (h : parseTask text = .ok t)
    (hfits : t.NumbersFit) {r : Registry} (hr : r.WellFormed) (hext : t.registry.Extends r)
    (hcheck : (checkCompatibility computeModels t r).1 = .ok ()) {i j : Nat} (hij : i < j)
    {e₁ e₂ : Example} (h₁ : t.examples[i]? = some e₁) (h₂ : t.examples[j]? = some e₂)
    (hinput : e₁.input ⊆ e₂.input) :
    (∀ s ∈ e₁.outputs, e₂.input ⊆ s → s ∈ e₂.outputs) ∧
      (e₁.input = e₂.input → (∀ s ∈ e₁.outputs, e₁.input ⊆ s) → e₁.outputs ⊆ e₂.outputs) := by
  have haccepts (s : LitSet) (hs : s ∈ e₁.outputs) (hsub : e₂.input ⊆ s) : s ∈ e₂.outputs :=
    accepts_of_checkCompatibility Solver.keepsFacts_builtIn (wellFormed_of_parseTask h) hfits hr
      hext hcheck hij h₁ h₂ hinput hs hsub
  exact ⟨haccepts, fun heq hall s hs => haccepts s hs (heq ▸ hall s hs)⟩

def nestedInputs : Task where
  registry := ⟨[⟨"a", []⟩, ⟨"p", ["1"]⟩, ⟨"c", []⟩, ⟨"d", []⟩]⟩
  background := [⟨some ⟨"c", []⟩, [.atom false ⟨"d", []⟩]⟩]
  examples := [⟨⟨[1]⟩, [⟨[1, 2]⟩, ⟨[1, 3]⟩]⟩, ⟨⟨[1, 2]⟩, [⟨[1, 2]⟩, ⟨[2, 4]⟩]⟩]

theorem parseTask_nestedInputs : parseTask
    "c :- d.\nI: a\nO: \x7ba p(1)\x7d \x7ba c\x7d\nI: a p(1)\nO: \x7ba p(1)\x7d \x7bp(1) d\x7d\n" =
      .ok nestedInputs := by cbv

theorem nestedInputs_later_accepts :
    nestedInputs.NumbersFit ∧
      (checkCompatibility computeModels nestedInputs nestedInputs.registry).1 = .ok () ∧
      ∀ s ∈ [(⟨[1, 2]⟩ : LitSet), ⟨[1, 3]⟩], (⟨[1, 2]⟩ : LitSet) ⊆ s →
        s ∈ [(⟨[1, 2]⟩ : LitSet), ⟨[2, 4]⟩] := by
  have hcheck : (checkCompatibility computeModels nestedInputs nestedInputs.registry).1 =
      .ok () := by cbv
  have hnumber : digitsValue "1".toList < 2147483648 := by decide
  have hfits : nestedInputs.NumbersFit := by
    simpa [Task.NumbersFit, Literal.NumbersFit, nestedInputs] using fun _ => hnumber
  exact ⟨hfits, hcheck, (later_accepts_outputs parseTask_nestedInputs hfits (by decide)
    (.refl _) hcheck Nat.zero_lt_one rfl rfl (by decide)).1⟩

/-! ## The order of the examples -/

def Task.permuted (t : Task) (σ : Equiv.Perm (Fin t.examples.length)) : Task :=
  { t with examples := List.ofFn fun i => t.examples.get (σ i) }

section Orders

variable {t : Task} {σ : Equiv.Perm (Fin t.examples.length)}

/-- The two orders of the examples at two positions are told apart by nothing. -/
def Task.Symmetric (t : Task) (i j : Fin t.examples.length) : Prop :=
  t.Compatible (t.examples.get i) (t.examples.get j) ↔
    t.Compatible (t.examples.get j) (t.examples.get i)

theorem pairwise_permuted_iff {R : Example → Example → Prop} :
    (t.permuted σ).examples.Pairwise R ↔
      ∀ i j, σ.symm i < σ.symm j → R (t.examples.get i) (t.examples.get j) := by
  rw [Task.permuted, List.pairwise_ofFn]
  constructor
  · intro h i j hij
    simpa using h hij
  · intro h i j hij
    exact h (σ i) (σ j) (by simpa using hij)

theorem mem_examples_of_mem_permuted {e : Example} (he : e ∈ (t.permuted σ).examples) :
    e ∈ t.examples := by
  obtain ⟨i, rfl⟩ := List.mem_ofFn.1 he
  exact List.get_mem _ _

/-- Where a check passes when every two examples are related, its verdict depends on the order of
the examples through the pairs that are related in one order only. -/
theorem permuted_of_pairwise {σ ε : Type} {ask : ModelQuery → σ → Except ε (List LitSet) × σ}
    {state : σ} {R : Example → Example → Prop}
    (hcheck : ∀ examples ⊆ t.examples, (checkCompatibility ask { t with examples } state).1 =
      .ok () ↔ examples.Pairwise R) :
    (∀ σ, (checkCompatibility ask (t.permuted σ) state).1 = .ok () ↔
      ∀ i j, σ.symm i < σ.symm j → R (t.examples.get i) (t.examples.get j)) ∧
    (∀ σ, (∀ i j, i < j → σ.symm j < σ.symm i →
        (R (t.examples.get i) (t.examples.get j) ↔ R (t.examples.get j) (t.examples.get i))) →
      ((checkCompatibility ask (t.permuted σ) state).1 = .ok () ↔
        (checkCompatibility ask t state).1 = .ok ())) ∧
    ((∀ σ, (checkCompatibility ask (t.permuted σ) state).1 = .ok ()) ↔
      (checkCompatibility ask t state).1 = .ok () ∧
        (checkCompatibility ask { t with examples := t.examples.reverse } state).1 = .ok ()) := by
  have hordered : (checkCompatibility ask t state).1 = .ok () ↔
      ∀ i j : Fin t.examples.length, i < j → R (t.examples.get i) (t.examples.get j) :=
    (hcheck t.examples (List.Subset.refl _)).trans List.pairwise_iff_get
  have hreverse : (checkCompatibility ask { t with examples := t.examples.reverse } state).1 =
      .ok () ↔
      ∀ i j : Fin t.examples.length, i < j → R (t.examples.get j) (t.examples.get i) := by
    refine (hcheck _ fun e he => List.mem_reverse.1 he).trans ?_
    exact List.pairwise_reverse.trans (List.pairwise_iff_get (R := fun e₁ e₂ => R e₂ e₁))
  have hpermuted (σ) : (checkCompatibility ask (t.permuted σ) state).1 = .ok () ↔
      ∀ i j, σ.symm i < σ.symm j → R (t.examples.get i) (t.examples.get j) :=
    (hcheck _ fun e he => mem_examples_of_mem_permuted he).trans pairwise_permuted_iff
  refine ⟨hpermuted, fun σ hσ => ?_, ?_⟩
  · rw [hpermuted, hordered]
    constructor
    · intro h i j hij
      rcases lt_or_gt_of_ne (σ.symm.injective.ne hij.ne) with hσij | hσji
      · exact h i j hσij
      · exact (hσ i j hij hσji).2 (h j i hσji)
    · intro h i j hσij
      rcases lt_or_gt_of_ne (ne_of_apply_ne σ.symm hσij.ne) with hij | hji
      · exact h i j hij
      · exact (hσ j i hji hσij).1 (h j i hji)
  · simp only [hpermuted, hordered, hreverse]
    constructor
    · intro h
      exact ⟨fun i j hij => h 1 i j hij,
        fun i j hij => h Fin.revPerm j i (by simpa using hij)⟩
    -- The permutation has each two examples in the order of the task or in the opposite one.
    · rintro ⟨h, h'⟩ σ i j hσij
      rcases lt_or_gt_of_ne (ne_of_apply_ne σ.symm hσij.ne) with hij | hji
      · exact h i j hij
      · exact h' j i hji

/-- A check passes when every two examples are compatible in the order of the task, and in no
other way does its verdict depend on the order. So it stays the same under a permutation that
reverses no two examples that are compatible in one order only, and the check passes in every
order of the examples if it passes in one order and in the opposite one. -/
theorem checkCompatibility_permuted {r : Registry} (hr : r.WellFormed)
    (hext : t.registry.Extends r) (ht : ∀ e ∈ t.examples, e.RegisteredIn t.registry) :
    (∀ σ, (checkCompatibility computeModels (t.permuted σ) r).1 = .ok () ↔
      ∀ i j, σ.symm i < σ.symm j → t.Compatible (t.examples.get i) (t.examples.get j)) ∧
    (∀ σ, (∀ i j, i < j → σ.symm j < σ.symm i → t.Symmetric i j) →
      ((checkCompatibility computeModels (t.permuted σ) r).1 = .ok () ↔
        (checkCompatibility computeModels t r).1 = .ok ())) ∧
    ((∀ σ, (checkCompatibility computeModels (t.permuted σ) r).1 = .ok ()) ↔
      (checkCompatibility computeModels t r).1 = .ok () ∧
        (checkCompatibility computeModels { t with examples := t.examples.reverse } r).1 =
          .ok ()) := by
  refine permuted_of_pairwise fun examples hexamples => ?_
  refine (checkCompatibility_ok_iff (t := { t with examples }) (fun e he => ht e (hexamples he))
    ⟨hr, hext⟩).trans ?_
  exact List.Pairwise.iff fun _ _ => compatible_builtIn_iff
end Orders

def crossedInputs : Task where
  registry := ⟨["a", "b", "d", "c"].map fun name => ⟨name, []⟩⟩
  background := []
  examples := [⟨⟨[1]⟩, [⟨[1, 2, 3]⟩]⟩, ⟨⟨[2]⟩, [⟨[1, 2, 4]⟩]⟩]

theorem crossedInputs_every_order :
    (∀ i j, i ≠ j →
      crossedInputs.Compatible (crossedInputs.examples.get i) (crossedInputs.examples.get j)) ∧
    ∀ σ, (checkCompatibility computeModels (crossedInputs.permuted σ) crossedInputs.registry).1 =
      .ok () := by
  have hparse : parseTask "I: a\nO: \x7ba b d\x7d\nI: b\nO: \x7ba b c\x7d\n" =
      .ok crossedInputs := by cbv
  have ht := wellFormed_of_parseTask hparse
  obtain ⟨hpairs, -, hall⟩ := checkCompatibility_permuted (t := crossedInputs) ht.registry
    (.refl _) ht.examples
  have hpasses := hall.2 ⟨by cbv, by cbv⟩
  refine ⟨fun i j hij => ?_, hpasses⟩
  rcases lt_or_gt_of_ne hij with hlt | hgt
  · exact (hpairs 1).1 (hpasses 1) i j hlt
  · exact (hpairs Fin.revPerm).1 (hpasses _) i j (by simpa using hgt)

/-- Of the two orders of these examples, only the one in the text passes the check. -/
theorem laterOutput_not_reversed :
    ¬ ∀ (t : Task) (examples : List Example), examples.Perm t.examples →
      ((checkCompatibility computeModels { t with examples } t.registry).1 = .ok () ↔
        (checkCompatibility computeModels t t.registry).1 = .ok ()) := by
  intro h
  have hpasses : (checkCompatibility computeModels laterOutput laterOutput.registry).1 =
      .ok () := by cbv
  have hfails : (checkCompatibility computeModels
      { laterOutput with examples := laterOutput.examples.reverse } laterOutput.registry).1 =
      .error (.conflict ⟨.ii, 0, 1⟩) := by cbv
  have hreversed := (h laterOutput laterOutput.examples.reverse (List.reverse_perm _)).2 hpasses
  rw [hfails] at hreversed
  cases hreversed

end AnswerSetLearning
