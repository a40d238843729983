import AnswerSetLearning.Proofs.Compatibility
import AnswerSetLearning.Proofs.Induction.SpuriousModels

namespace AnswerSetLearning

open Solver (Engine)

namespace Builder

theorem mem_normalized {α : Type} [LT α] [DecidableLT α] [DecidableEq α] {l : List α} {a : α} :
    a ∈ normalized l ↔ a ∈ l := SortedSet.mem_ofList

theorem mem_pushAll {α : Type} {field : Builder → List α} {mk : α → Push}
    (hpush : ∀ b q a, a ∈ field (b.push q) ↔ a ∈ field b ∨ mk a = q) {b : Builder}
    {ps : List Push} {a : α} : a ∈ field (b.pushAll ps) ↔ a ∈ field b ∨ mk a ∈ ps := by
  induction ps generalizing b with
  | nil => simp [pushAll]
  | cons q ps ih =>
    have ih := ih (b := b.push q)
    rw [hpush, or_assoc] at ih
    rw [List.mem_cons]
    exact ih

theorem mem_positives_pushAll {b : Builder} {ps : List Push} {p : TrainingExample} :
    p ∈ (b.pushAll ps).positives ↔ p ∈ b.positives ∨ .positive p ∈ ps :=
  mem_pushAll fun b q p => by cases q <;> simp [push]

theorem mem_negatives_pushAll {b : Builder} {ps : List Push} {n : TrainingExample} :
    n ∈ (b.pushAll ps).negatives ↔ n ∈ b.negatives ∨ .negative n ∈ ps :=
  mem_pushAll fun b q n => by cases q <;> simp [push]

end Builder

namespace Example

variable (e : Example) (registry : Registry) (univ : LitSet)

def MakesPositive (s : LitSet) (p : TrainingExample) : Prop :=
  s ∈ e.outputs ∧ ∃ ctx, registry.resolve e.input.items = .ok ctx ∧
    .positive p ∈ (acceptOutput registry univ ctx s).pushes

def MakesNegative (n : TrainingExample) : Prop :=
  .negative n ∈ (exampleScript registry univ e).pushes

/-- `n` is the negative example for a literal of the universe outside all outputs. -/
def MakesLiteralNegative (i : Lit) (n : TrainingExample) : Prop :=
  e.outputs ≠ [] ∧ i ∈ univ.diff e.outputLiterals ∧
    ∃ ctx, registry.resolve e.input.items = .ok ctx ∧
      .negative n ∈ (excludeLiteral registry ctx i).pushes

end Example

section Synthesis

variable {registry : Registry} {univ : LitSet} {e : Example}

theorem mem_exampleScript_of_mem_trainingScript {ctx : List Literal}
    (h : (exampleScript registry univ e).fault = none)
    (hctx : registry.resolve e.input.items = .ok ctx) {p : Push}
    (hp : p ∈ (trainingScript registry univ e ctx).pushes) :
    p ∈ (exampleScript registry univ e).pushes := by
  rw [exampleScript, Script.resolving_of_ok hctx, Script.fault_andThen] at h
  rw [exampleScript, Script.resolving_of_ok hctx, Script.mem_andThen_iff h.1]
  exact .inl hp

theorem fault_of_exampleScript (h : (exampleScript registry univ e).fault = none)
    (hout : e.outputs ≠ []) {ctx : List Literal}
    (hctx : registry.resolve e.input.items = .ok ctx) :
    (Script.concat (e.outputs.map (acceptOutput registry univ ctx))).fault = none ∧
      (Script.concat ((univ.diff e.outputLiterals).items.map
        (excludeLiteral registry ctx))).fault = none := by
  rw [exampleScript, Script.resolving_of_ok hctx, Script.fault_andThen, trainingScript,
    if_neg (by simpa using hout), Script.fault_andThen, Script.fault_andThen] at h
  exact ⟨h.1.1, h.1.2.1⟩

theorem positive_mem_exampleScript_iff (h : (exampleScript registry univ e).fault = none)
    {p : TrainingExample} :
    .positive p ∈ (exampleScript registry univ e).pushes ↔
      ∃ s, e.MakesPositive registry univ s p := by
  constructor
  · intro hp
    obtain ⟨ctx, hctx, hp⟩ := pushes_of_mem hp
    cases hp with
    | positive hs hp => exact ⟨_, hs, ctx, hctx, positive_mem_acceptOutput_iff.2 hp⟩
  · rintro ⟨s, hs, ctx, hctx, hp⟩
    have hout : e.outputs ≠ [] := List.ne_nil_of_mem hs
    obtain ⟨haccept, -⟩ := fault_of_exampleScript h hout hctx
    apply mem_exampleScript_of_mem_trainingScript h hctx
    rw [trainingScript, if_neg (by simpa using hout), Script.mem_andThen_iff haccept]
    exact .inl (Script.mem_concat_of_mem haccept (List.mem_map_of_mem hs) hp)

theorem Example.MakesLiteralNegative.makesNegative {i : Lit} {n : TrainingExample}
    (hn : e.MakesLiteralNegative registry univ i n)
    (h : (exampleScript registry univ e).fault = none) : e.MakesNegative registry univ n := by
  obtain ⟨hout, hi, ctx, hctx, hn⟩ := hn
  obtain ⟨haccept, hexclude⟩ := fault_of_exampleScript h hout hctx
  apply mem_exampleScript_of_mem_trainingScript h hctx
  rw [trainingScript, if_neg (by simpa using hout), Script.mem_andThen_iff haccept,
    Script.mem_andThen_iff hexclude]
  exact .inr (.inl (Script.mem_concat_of_mem hexclude (List.mem_map_of_mem hi) hn))

variable {t : Task} {learning : LearningTask}

theorem synthesize_of_fault (h : (taskScript t univ).fault = none) :
    synthesize t univ = .ok (Builder.empty.pushAll (taskScript t univ).pushes).build := by
  rw [synthesize, h]

theorem taskScript_of_synthesize (h : synthesize t univ = .ok learning) :
    (taskScript t univ).fault = none ∧
      learning = (Builder.empty.pushAll (taskScript t univ).pushes).build := by
  unfold synthesize at h
  dsimp only at h
  split at h
  · cases h
  · next hfault =>
    cases h
    exact ⟨hfault, rfl⟩

theorem fault_exampleScript_of_synthesize (h : synthesize t univ = .ok learning)
    (he : e ∈ t.examples) : (exampleScript t.registry univ e).fault = none := by
  obtain ⟨hfault, -⟩ := taskScript_of_synthesize h
  rw [taskScript, Script.fault_andThen, Script.fault_concat] at hfault
  exact hfault.2 _ (List.mem_map_of_mem he)

theorem mem_taskScript_iff (h : synthesize t univ = .ok learning) {p : Push}
    (hp : ∀ r, p ≠ .background r) :
    p ∈ (taskScript t univ).pushes ↔
      ∃ e ∈ t.examples, p ∈ (exampleScript t.registry univ e).pushes := by
  obtain ⟨hfault, -⟩ := taskScript_of_synthesize h
  rw [taskScript, Script.fault_andThen] at hfault
  rw [taskScript, Script.mem_andThen_iff hfault.1, Script.mem_of]
  constructor
  · rintro (hmem | hmem)
    · obtain ⟨r, -, rfl⟩ := List.mem_map.1 hmem
      exact absurd rfl (hp r)
    · obtain ⟨s, hs, hmem⟩ := Script.mem_concat hmem
      obtain ⟨e, he, rfl⟩ := List.mem_map.1 hs
      exact ⟨e, he, hmem⟩
  · rintro ⟨e, he, hmem⟩
    exact .inr (Script.mem_concat_of_mem hfault.2 (List.mem_map_of_mem he) hmem)

theorem mem_positives_iff (h : synthesize t univ = .ok learning) {p : TrainingExample} :
    p ∈ learning.positives ↔ ∃ e ∈ t.examples, ∃ s, e.MakesPositive t.registry univ s p := by
  have hmem : p ∈ learning.positives ↔ .positive p ∈ (taskScript t univ).pushes := by
    obtain ⟨-, rfl⟩ := taskScript_of_synthesize h
    simp [Builder.build, Builder.mem_normalized, Builder.mem_positives_pushAll, Builder.empty]
  rw [hmem, mem_taskScript_iff h (by simp)]
  refine exists_congr fun e => and_congr_right fun he => ?_
  exact positive_mem_exampleScript_iff (fault_exampleScript_of_synthesize h he)

theorem mem_negatives_iff (h : synthesize t univ = .ok learning) {n : TrainingExample} :
    n ∈ learning.negatives ↔ ∃ e ∈ t.examples, e.MakesNegative t.registry univ n := by
  have hmem : n ∈ learning.negatives ↔ .negative n ∈ (taskScript t univ).pushes := by
    obtain ⟨-, rfl⟩ := taskScript_of_synthesize h
    simp [Builder.build, Builder.mem_normalized, Builder.mem_negatives_pushAll, Builder.empty]
  rw [hmem, mem_taskScript_iff h (by simp)]
  rfl

end Synthesis

section Build

variable {E : Engine} {t : Task} {learning : LearningTask}

/-- The stages of a build that ends well. -/
structure Solver.Engine.Build (E : Engine) (t : Task) (learning : LearningTask) where
  univ : LitSet
  grounded : Registry
  registry : Registry
  computes : E.computeUniverse t = (.ok univ, grounded)
  checks : E.checkWithSolver { t with registry := grounded } = .ok registry
  synthesizes : synthesize { t with registry } univ = .ok learning

theorem nonempty_build (h : (E.buildTask t).result = .ok learning) :
    Nonempty (E.Build t learning) := by
  unfold Engine.buildTask at h
  split at h
  · cases h
  · next univ grounded hcomputes =>
    dsimp only at h
    split at h
    · cases h
    next registry hchecks =>
    split at h
    · next hsynthesizes =>
      cases h
      exact ⟨⟨univ, grounded, registry, hcomputes, hchecks, hsynthesizes⟩⟩
    · cases h

namespace Solver.Engine.Build

theorem result_eq (b : E.Build t learning) : (E.buildTask t).result = .ok learning := by
  simp [Engine.buildTask, b.computes, b.checks, b.synthesizes]

theorem grounded_wellFormed (b : E.Build t learning) (ht : t.WellFormed) :
    b.grounded.WellFormed :=
  wellFormed_computeUniverse ht.registry b.computes

theorem extends_grounded (b : E.Build t learning) : t.registry.Extends b.grounded :=
  computeUniverse_extends b.computes

theorem grounded_extends (b : E.Build t learning) (ht : t.WellFormed) :
    b.registry.WellFormed ∧ b.grounded.Extends b.registry :=
  checkWithSolver_extends (t := { t with registry := b.grounded }) (b.grounded_wellFormed ht)
    b.checks

theorem registers_univ (b : E.Build t learning) (ht : t.WellFormed) :
    b.registry.Registers b.univ :=
  (registers_computeUniverse ht.registry b.computes).mono (b.grounded_extends ht).2

theorem fitsIn (b : E.Build t learning) (hE : E.KeepsFacts) (ht : t.WellFormed)
    (hfits : t.NumbersFit) {e : Example} (he : e ∈ t.examples) (hout : e.outputs ≠ []) :
    e.FitsIn b.registry b.univ where
  toNormal := (ht.examples e he).toNormal
  wellFormed := (b.grounded_extends ht).1
  registers := b.registers_univ ht
  normal := normal_computeUniverse b.computes
  input_subset := by
    obtain ⟨s, hs⟩ := List.exists_mem_of_ne_nil _ hout
    exact (subset_computeUniverse hE ht hfits b.computes he hs).1
  output_subset s hs := (subset_computeUniverse hE ht hfits b.computes he hs).2

end Solver.Engine.Build

abbrev Build := Engine.builtIn.Build

def Build.ofStages (lits : List Lit) (univ : LitSet) (grounded registry : Registry)
    (hderive : derivedFrom t.background t.scenarios t.registry = (.ok lits, grounded))
    (huniv : .ofList lits = univ)
    (hcheck : checkWithSolver { t with registry := grounded } = .ok registry)
    (hscript : (taskScript { t with registry } univ).fault = none) :
    Build t (Builder.empty.pushAll (taskScript { t with registry } univ).pushes).build where
  univ := univ
  grounded := grounded
  registry := registry
  computes := by simp only [Engine.computeUniverse, hderive, huniv]
  checks := hcheck
  synthesizes := synthesize_of_fault hscript

end Build

end AnswerSetLearning
