import AnswerSetLearning.Proofs.Induction.Pipeline
import AnswerSetLearning.Proofs.Solver.Models

namespace AnswerSetLearning

open Solver (Engine keepsFacts_builtIn)

/-- In their common context a set of literals meets the demands of both examples. -/
def Contradicts (p n : TrainingExample) : Prop :=
  p.ctx = n.ctx ∧ ∃ M : Set Literal, (∀ l ∈ p.ctx, l ∈ M) ∧ p.Covers M ∧ n.Covers M

section Agreement

variable {t : Task} {learning : LearningTask}

theorem accepts_of_makesPositive {registry : Registry} {univ : LitSet} {e : Example} {s : LitSet}
    {p : TrainingExample} (h : e.MakesPositive registry univ s p) :
    registry.resolve e.input.items = .ok p.ctx ∧ Accepts registry univ p.ctx s p := by
  obtain ⟨-, ctx, hctx, hp⟩ := h
  have hp := positive_mem_acceptOutput_iff.1 hp
  rw [hp.ctx]
  exact ⟨hctx, hp⟩

theorem excludes_of_makesNegative {registry : Registry} {univ : LitSet} {e : Example}
    {n : TrainingExample} (h : e.MakesNegative registry univ n) :
    registry.resolve e.input.items = .ok n.ctx ∧ Excludes registry univ e n.ctx n := by
  obtain ⟨ctx, hctx, hn⟩ := pushes_of_mem h
  cases hn with
  | negative hn =>
    rw [hn.ctx_eq]
    exact ⟨hctx, hn⟩

theorem input_subset_of_covers {registry : Registry} {univ : LitSet} {e : Example}
    (h : e.FitsIn registry univ) {s : LitSet} {p : TrainingExample}
    (hp : e.MakesPositive registry univ s p) {M : Set Literal} (hctx : ∀ l ∈ p.ctx, l ∈ M)
    (hM : p.Covers M) : e.input ⊆ s := by
  obtain ⟨hresolve, hacc⟩ := accepts_of_makesPositive hp
  obtain ⟨-, hle⟩ := (hacc.covers_iff h.wellFormed h.normal (h.outputs s hp.1)).1 hM
  apply (Registry.denote_subset_iff h.wellFormed (h.registers.subset h.input_subset)).1
  intro l hl
  have hl' := hctx l ((Registry.mem_of_resolve hresolve).2 hl)
  exact hle ⟨Registry.denote_mono h.input_subset hl, hl'⟩

theorem input_eq_of_ctx_eq {registry : Registry} (hr : registry.WellFormed) {univ : LitSet}
    {e e' : Example} {s : LitSet} {p n : TrainingExample}
    (hp : e.MakesPositive registry univ s p) (hn : e'.MakesNegative registry univ n)
    (hctx : p.ctx = n.ctx) : e.input = e'.input := by
  obtain ⟨hp, -⟩ := accepts_of_makesPositive hp
  obtain ⟨hn, -⟩ := excludes_of_makesNegative hn
  rw [← hctx] at hn
  exact congrArg SortedSet.mk (Registry.resolve_injective hr hp hn)

/-- An output of an earlier example is no matter of a later one unless both have it, since the
check has looked at it. -/
theorem Solver.Engine.Build.not_contradicts {E : Engine} (b : E.Build t learning)
    (hE : E.KeepsFacts) (ht : t.WellFormed) (hfits : t.NumbersFit) {i j : Nat} {e e' : Example}
    (hi : t.examples[i]? = some e) (hj : t.examples[j]? = some e') {s : LitSet}
    {p n : TrainingExample} (hp : e.MakesPositive b.registry b.univ s p)
    (hn : e'.MakesNegative b.registry b.univ n) (hij : i ≤ j ∨ s ∈ e'.outputs) :
    ¬ Contradicts p n := by
  rintro ⟨hctx, M, hM, hcovers, hexcluded⟩
  have he := List.mem_of_getElem? hi
  have he' := List.mem_of_getElem? hj
  have hfit := b.fitsIn hE ht hfits he (List.ne_nil_of_mem hp.1)
  have hinput := input_eq_of_ctx_eq hfit.wellFormed hp hn hctx
  by_cases hs : s ∈ e'.outputs
  · have hfit' := b.fitsIn hE ht hfits he' (List.ne_nil_of_mem hs)
    obtain ⟨-, hp⟩ := accepts_of_makesPositive hp
    obtain ⟨-, hn⟩ := excludes_of_makesNegative hn
    exact not_covers_of_accepts hfit' hs hp hn hcovers hexcluded
  -- Another example comes later, so the check has compared the two.
  · have hlt : i < j := by
      have hle := hij.resolve_right hs
      have hne : i ≠ j := by
        rintro rfl
        cases hi.symm.trans hj
        exact hs hp.1
      omega
    have hsub := input_subset_of_covers hfit hp hM hcovers
    have hreadable : ∀ l ∈ b.grounded.denote e'.input, l.WellSpelled ∧ l.NumbersFit := by
      rw [Registry.denote_of_extends (ht.examples e' he').registers_input b.extends_grounded]
      exact ht.readable hfits e'.input
    refine not_subset_of_checkWithSolver (t := { t with registry := b.grounded }) hE
      (b.grounded_wellFormed ht) b.checks hlt hi hj ((ht.examples e he).mono b.extends_grounded)
      ((ht.examples e' he').mono b.extends_grounded) hreadable hp.1 hs (hinput ▸ hsub) ?_
    rw [hinput]
    exact SortedSet.subset_refl _

/-- No training examples with one context contradict each other, except that what an example
accepts may be excluded by an earlier example that has not got the same output: the check only
looks at the outputs of the earlier example of a pair. -/
theorem not_contradicts_of_buildTask {text : String} (hparse : parseTask text = .ok t)
    (hfits : t.NumbersFit) (hbuild : (buildTask t).result = .ok learning) :
    ∃ b : Build t learning,
      (∀ p, p ∈ learning.positives ↔
        ∃ e ∈ t.examples, ∃ s, e.MakesPositive b.registry b.univ s p) ∧
      (∀ n, n ∈ learning.negatives ↔
        ∃ e ∈ t.examples, e.MakesNegative b.registry b.univ n) ∧
      ∀ (i j : Nat) (e e' : Example) (s : LitSet) (p n : TrainingExample),
        t.examples[i]? = some e → t.examples[j]? = some e' →
        e.MakesPositive b.registry b.univ s p → e'.MakesNegative b.registry b.univ n →
        i ≤ j ∨ s ∈ e'.outputs → ¬ Contradicts p n := by
  have ht := wellFormed_of_parseTask hparse
  obtain ⟨b⟩ := nonempty_build hbuild
  exact ⟨b, fun p => mem_positives_iff b.synthesizes, fun n => mem_negatives_iff b.synthesizes,
    fun i j e e' s p n hi hj hp hn => b.not_contradicts keepsFacts_builtIn ht hfits hi hj hp hn⟩

def repeatedInput : Task where
  registry := ⟨["a", "b", "c", "d"].map fun name => ⟨name, []⟩⟩
  background := []
  examples := [⟨⟨[2]⟩, [⟨[1, 2]⟩]⟩, ⟨⟨[1]⟩, [⟨[1, 3]⟩, ⟨[4]⟩]⟩, ⟨⟨[1]⟩, [⟨[1, 3]⟩, ⟨[1, 4]⟩]⟩]

theorem parseTask_repeatedInput : parseTask
    "I: b\nO: \x7ba b\x7d\nI: a\nO: \x7ba c\x7d \x7bd\x7d\nI: a\nO: \x7ba c\x7d \x7ba d\x7d\n" =
      .ok repeatedInput := by cbv

def repeatedBuild : Build repeatedInput
    (Builder.empty.pushAll (taskScript repeatedInput ⟨[1, 2, 3, 4]⟩).pushes).build :=
  .ofStages [2, 1, 1, 3, 1, 4, 1, 3, 1, 4] ⟨[1, 2, 3, 4]⟩ repeatedInput.registry
    repeatedInput.registry (by decide +kernel) (by cbv) (by cbv) (by cbv)

theorem numbersFit_repeatedInput : repeatedInput.NumbersFit := by
  have hargs : ∀ l ∈ repeatedInput.registry.literals, l.args = [] := by decide
  intro l hl a ha
  rw [hargs l hl] at ha
  cases ha

theorem repeatedInput_not_contradicts :
    ∃ learning, ∃ b : Build repeatedInput learning, ∀ p ∈ learning.positives, ∀ n,
      repeatedInput.examples[2].MakesNegative b.registry b.univ n → ¬ Contradicts p n := by
  obtain ⟨b, hpositives, -, hagree⟩ := not_contradicts_of_buildTask parseTask_repeatedInput
    numbersFit_repeatedInput repeatedBuild.result_eq
  refine ⟨_, b, fun p hp n hn => ?_⟩
  obtain ⟨e, he, s, hs⟩ := (hpositives p).1 hp
  obtain ⟨i, hi, rfl⟩ := List.mem_iff_getElem.1 he
  exact hagree i 2 _ _ s p n (List.getElem?_eq_getElem hi) rfl hs hn (.inl (Nat.le_of_lt_succ hi))

def IsContradictory (text : String) : Prop :=
  ∃ t learning, parseTask text = .ok t ∧ (buildTask t).result = .ok learning ∧
    ∃ p ∈ learning.positives, ∃ n ∈ learning.negatives, Contradicts p n

theorem isContradictory_of_build {text : String} {pushes : List Push} {p n : TrainingExample}
    (hparse : parseTask text = .ok t) (b : Build t (Builder.empty.pushAll pushes).build)
    (hp : .positive p ∈ pushes) (hn : .negative n ∈ pushes) (h : Contradicts p n) :
    IsContradictory text := by
  refine ⟨t, _, hparse, b.result_eq, p, ?_, n, ?_, h⟩
  · exact Builder.mem_normalized.2 (Builder.mem_positives_pushAll.2 (.inr hp))
  · exact Builder.mem_normalized.2 (Builder.mem_negatives_pushAll.2 (.inr hn))

def laterOutput : Task where
  registry := ⟨[⟨"a", []⟩, ⟨"b", []⟩]⟩
  background := []
  examples := [⟨⟨[1]⟩, []⟩, ⟨⟨[1]⟩, [⟨[1, 2]⟩]⟩]

def laterBuild :
    Build laterOutput (Builder.empty.pushAll (taskScript laterOutput ⟨[1, 2]⟩).pushes).build :=
  .ofStages [1, 2] ⟨[1, 2]⟩ laterOutput.registry laterOutput.registry (by decide +kernel)
    (by cbv) (by cbv) (by cbv)

theorem isContradictory_laterOutput :
    IsContradictory "I: a\nO:\nI: a\nO: \x7ba b\x7d\n" := by
  have hparse : parseTask "I: a\nO:\nI: a\nO: \x7ba b\x7d\n" = .ok laterOutput := by cbv
  have hpushes : (taskScript laterOutput ⟨[1, 2]⟩).pushes =
      [.negative ⟨[], [], [⟨"a", []⟩]⟩, .positiveBody ⟨"a", []⟩,
        .positive ⟨[⟨"a", []⟩, ⟨"b", []⟩], [], [⟨"a", []⟩]⟩,
        .head ⟨"b", []⟩, .generalBody ⟨"b", []⟩, .positiveBody ⟨"a", []⟩] := by cbv
  refine isContradictory_of_build hparse laterBuild
    (p := ⟨[⟨"a", []⟩, ⟨"b", []⟩], [], [⟨"a", []⟩]⟩) (n := ⟨[], [], [⟨"a", []⟩]⟩)
    (by simp [hpushes]) (by simp [hpushes]) ⟨rfl, .univ, ?_⟩
  simp [TrainingExample.Covers]

def largeNumber : Task where
  registry := ⟨[⟨"q", []⟩, ⟨"p", ["4294967297"]⟩]⟩
  background := []
  examples := [⟨⟨[2]⟩, [⟨[1]⟩]⟩, ⟨⟨[2]⟩, []⟩]

def largeGrounded : Task :=
  { largeNumber with registry := ⟨[⟨"q", []⟩, ⟨"p", ["4294967297"]⟩, ⟨"p", ["1"]⟩]⟩ }

def largeBuild :
    Build largeNumber (Builder.empty.pushAll (taskScript largeGrounded ⟨[1, 3]⟩).pushes).build :=
  .ofStages [3, 1] ⟨[1, 3]⟩ largeGrounded.registry largeGrounded.registry (by decide +kernel)
    (by cbv) (by cbv) (by cbv)

theorem isContradictory_largeNumber :
    IsContradictory "I: p(4294967297)\nO: \x7bq\x7d\nI: p(4294967297)\nO:\n" := by
  have hparse : parseTask "I: p(4294967297)\nO: \x7bq\x7d\nI: p(4294967297)\nO:\n" =
      .ok largeNumber := by cbv
  have hpushes : (taskScript largeGrounded ⟨[1, 3]⟩).pushes =
      [.positive ⟨[⟨"q", []⟩], [⟨"p", ["1"]⟩], [⟨"p", ["4294967297"]⟩]⟩,
        .negative ⟨[⟨"p", ["1"]⟩], [], [⟨"p", ["4294967297"]⟩]⟩,
        .head ⟨"q", []⟩, .generalBody ⟨"q", []⟩, .positiveBody ⟨"p", ["4294967297"]⟩,
        .negative ⟨[], [], [⟨"p", ["4294967297"]⟩]⟩,
        .positiveBody ⟨"p", ["4294967297"]⟩] := by cbv
  refine isContradictory_of_build hparse largeBuild
    (p := ⟨[⟨"q", []⟩], [⟨"p", ["1"]⟩], [⟨"p", ["4294967297"]⟩]⟩)
    (n := ⟨[], [], [⟨"p", ["4294967297"]⟩]⟩)
    (by simp [hpushes]) (by simp [hpushes]) ⟨rfl, {⟨"q", []⟩, ⟨"p", ["4294967297"]⟩}, ?_⟩
  simp [TrainingExample.Covers]

/-- An earlier example may exclude what a later one accepts, and a number beyond the range of the
solver leaves the universe without the input. -/
theorem isContradictory_texts :
    IsContradictory "I: a\nO:\nI: a\nO: \x7ba b\x7d\n" ∧
      IsContradictory "I: p(4294967297)\nO: \x7bq\x7d\nI: p(4294967297)\nO:\n" :=
  ⟨isContradictory_laterOutput, isContradictory_largeNumber⟩

end Agreement

end AnswerSetLearning
