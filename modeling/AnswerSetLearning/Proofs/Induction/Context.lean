import AnswerSetLearning.Proofs.Induction.Agreement

namespace AnswerSetLearning

open Solver (keepsFacts_builtIn)

section Context

variable {registry : Registry}

theorem forall_not_mem_iff (hr : registry.WellFormed) {s u : LitSet} {ls ms : List Literal}
    (hls : registry.resolve s.items = .ok ls) (hms : registry.resolve u.items = .ok ms)
    (hs : registry.Registers s) : (∀ l ∈ ls, l ∉ ms) ↔ ∀ i ∈ s, i ∉ u := by
  constructor
  · intro h i hi hu
    obtain ⟨l, hl⟩ := hs i hi
    exact h l ((Registry.mem_of_resolve hls).2 ⟨i, hi, hl⟩)
      ((Registry.mem_of_resolve hms).2 ⟨i, hu, hl⟩)
  · intro h l hl hm
    obtain ⟨i, hi, hl⟩ := (Registry.mem_of_resolve hls).1 hl
    exact h i hi ((Registry.mem_denote_iff hr hl).1 ((Registry.mem_of_resolve hms).1 hm))

end Context

namespace Solver.Engine.Build

variable {E : Engine} {t : Task} {learning : LearningTask} (b : E.Build t learning) {e : Example}

theorem negative_of_makesLiteralNegative (he : e ∈ t.examples) {i : Lit}
    {n : TrainingExample} (hn : e.MakesLiteralNegative b.registry b.univ i n) :
    n ∈ learning.negatives :=
  have hfault := fault_exampleScript_of_synthesize b.synthesizes he
  (mem_negatives_iff b.synthesizes).2 ⟨e, he, hn.makesNegative hfault⟩

variable (ht : t.WellFormed)

include ht

theorem excl_not_mem_ctx_iff (he : e ∈ t.examples) {s : LitSet}
    {p : TrainingExample} (hp : e.MakesPositive b.registry b.univ s p) :
    (∀ l ∈ p.excl, l ∉ p.ctx) ↔ ∀ i ∈ e.input, i ∈ b.univ → i ∈ s := by
  obtain ⟨hctx, hacc⟩ := accepts_of_makesPositive hp
  have hmem (i : Lit) := SortedSet.mem_diff (a := i) (normal_computeUniverse b.computes)
    ((ht.examples e he).outputs s hp.1)
  rw [forall_not_mem_iff (b.grounded_extends ht).1 hacc.excl hctx
    ((b.registers_univ ht).subset fun i hi => ((hmem i).1 hi).1)]
  constructor
  · intro h i hi hiu
    by_contra his
    exact h i ((hmem i).2 ⟨hiu, his⟩) hi
  · intro h i hi hinput
    obtain ⟨hiu, his⟩ := (hmem i).1 hi
    exact his (h i hinput hiu)

theorem incl_not_mem_ctx_iff {i : Lit} {n : TrainingExample}
    (hn : e.MakesLiteralNegative b.registry b.univ i n) :
    (∀ l ∈ n.incl, l ∉ n.ctx) ↔ i ∉ e.input := by
  obtain ⟨-, hi, ctx, hctx, hn⟩ := hn
  have hn := negative_mem_excludeLiteral_iff.1 hn
  rw [SortedSet.mem_diff (normal_computeUniverse b.computes) e.normal_outputLiterals] at hi
  rw [hn.ctx, forall_not_mem_iff (b.grounded_extends ht).1 (s := ⟨[i]⟩) hn.incl hctx]
  · simp
  · intro j hj
    rw [List.mem_singleton.1 hj]
    exact b.registers_univ ht i hi.1

end Solver.Engine.Build

section Context

variable {t : Task} {learning : LearningTask}

/-- A positive example excludes something of its context unless its output has all of the input
that is in the universe, and the negative example for a literal is violated in its context if the
literal is one of the input. -/
theorem context_of_buildTask {text : String} (hparse : parseTask text = .ok t)
    (hbuild : (buildTask t).result = .ok learning) :
    ∃ b : Build t learning,
      (∀ p, p ∈ learning.positives ↔
        ∃ e ∈ t.examples, ∃ s, e.MakesPositive b.registry b.univ s p) ∧
      (∀ e ∈ t.examples, ∀ s p, e.MakesPositive b.registry b.univ s p →
        ((∀ l ∈ p.excl, l ∉ p.ctx) ↔ ∀ i ∈ e.input, i ∈ b.univ → i ∈ s)) ∧
      (∀ e ∈ t.examples, ∀ i n, e.MakesLiteralNegative b.registry b.univ i n →
        n ∈ learning.negatives ∧ ((∀ l ∈ n.incl, l ∉ n.ctx) ↔ i ∉ e.input)) ∧
      (t.NumbersFit → ∀ e ∈ t.examples, e.outputs ≠ [] → e.input ⊆ b.univ) := by
  have ht := wellFormed_of_parseTask hparse
  obtain ⟨b⟩ := nonempty_build hbuild
  refine ⟨b, fun p => mem_positives_iff b.synthesizes, ?_, ?_, ?_⟩
  · exact fun e he s p hp => b.excl_not_mem_ctx_iff ht he hp
  · exact fun e he i n hn =>
      ⟨b.negative_of_makesLiteralNegative he hn, b.incl_not_mem_ctx_iff ht hn⟩
  · intro hfits e he hout
    exact (b.fitsIn keepsFacts_builtIn ht hfits he hout).input_subset

theorem repeatedInput_keeps_context :
    ∃ learning, ∃ b : Build repeatedInput learning,
      (∀ s p, repeatedInput.examples[0].MakesPositive b.registry b.univ s p →
        ∀ l ∈ p.excl, l ∉ p.ctx) ∧
      (∀ i n, repeatedInput.examples[0].MakesLiteralNegative b.registry b.univ i n →
        n ∈ learning.negatives ∧ ∀ l ∈ n.incl, l ∉ n.ctx) ∧
      ∀ p, repeatedInput.examples[1].MakesPositive b.registry b.univ ⟨[4]⟩ p →
        ∃ l ∈ p.excl, l ∈ p.ctx := by
  obtain ⟨b, -, hexcl, hincl, huniv⟩ :=
    context_of_buildTask parseTask_repeatedInput repeatedBuild.result_eq
  have huniv := huniv numbersFit_repeatedInput
  have hmem (i : Fin 3) : repeatedInput.examples[i] ∈ repeatedInput.examples := by
    exact List.getElem_mem _
  refine ⟨_, b, fun s p hp => (hexcl _ (hmem 0) s p hp).2 ?_, fun i n hn => ?_, fun p hp => ?_⟩
  · intro i hi _
    cases List.mem_singleton.1 hp.1
    exact List.mem_cons_of_mem _ hi
  · obtain ⟨hnegative, hcontext⟩ := hincl _ (hmem 0) i n hn
    have houtside := hn.2.1
    rw [SortedSet.mem_diff (normal_computeUniverse b.computes) (Example.normal_outputLiterals _)]
      at houtside
    refine ⟨hnegative, hcontext.2 fun hi => houtside.2 ?_⟩
    exact Example.mem_outputLiterals.2 ⟨⟨[1, 2]⟩, by decide, List.mem_cons_of_mem _ hi⟩
  · by_contra hnone
    push Not at hnone
    have hinput := (hexcl _ (hmem 1) _ p hp).1 hnone 1 (by decide)
      (huniv _ (hmem 1) (by decide) (by decide))
    exact absurd hinput (by decide)

def missingInput : Task where
  registry := ⟨[⟨"b", []⟩, ⟨"a", []⟩]⟩
  background := []
  examples := [⟨⟨[2]⟩, [⟨[1]⟩]⟩]

def missingBuild :
    Build missingInput (Builder.empty.pushAll (taskScript missingInput ⟨[1, 2]⟩).pushes).build :=
  .ofStages [2, 1] ⟨[1, 2]⟩ missingInput.registry missingInput.registry (by decide +kernel)
    (by cbv) (by cbv) (by cbv)

theorem missingInput_excludes_context :
    ∃ learning, ∃ b : Build missingInput learning,
      parseTask "I: a\nO: \x7bb\x7d\n" = .ok missingInput ∧
      (∃ p ∈ learning.positives, ∃ l ∈ p.excl, l ∈ p.ctx) ∧
      ∃ e ∈ missingInput.examples, ∃ i n, e.MakesLiteralNegative b.registry b.univ i n ∧
        n ∈ learning.negatives ∧ ∃ l ∈ n.incl, l ∈ n.ctx := by
  have hparse : parseTask "I: a\nO: \x7bb\x7d\n" = .ok missingInput := by cbv
  have hpushes : (taskScript missingInput ⟨[1, 2]⟩).pushes =
      [.positive ⟨[⟨"b", []⟩], [⟨"a", []⟩], [⟨"a", []⟩]⟩,
        .negative ⟨[⟨"a", []⟩], [], [⟨"a", []⟩]⟩,
        .head ⟨"b", []⟩, .generalBody ⟨"b", []⟩, .positiveBody ⟨"a", []⟩] := by cbv
  have houtputs : Example.outputLiterals ⟨⟨[2]⟩, [⟨[1]⟩]⟩ = ⟨[1]⟩ := by cbv
  have hnegative : Example.MakesLiteralNegative ⟨⟨[2]⟩, [⟨[1]⟩]⟩ missingInput.registry ⟨[1, 2]⟩ 2
      ⟨[⟨"a", []⟩], [], [⟨"a", []⟩]⟩ := by
    refine ⟨by simp, ?_, [⟨"a", []⟩], rfl, negative_mem_excludeLiteral_iff.2 ⟨rfl, rfl, rfl⟩⟩
    rw [houtputs]
    decide
  refine ⟨_, missingBuild, hparse, ⟨⟨[⟨"b", []⟩], [⟨"a", []⟩], [⟨"a", []⟩]⟩, ?_, ?_⟩,
    ⟨⟨[2]⟩, [⟨[1]⟩]⟩, List.mem_singleton_self _, 2, _, hnegative, ?_, ?_⟩
  · exact Builder.mem_normalized.2 (Builder.mem_positives_pushAll.2 (.inr (by simp [hpushes])))
  · simp
  · exact Builder.mem_normalized.2 (Builder.mem_negatives_pushAll.2 (.inr (by simp [hpushes])))
  · simp

end Context

end AnswerSetLearning
