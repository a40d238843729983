import AnswerSetLearning.Proofs.Induction.Resolution
import AnswerSetLearning.Proofs.SetAlgebra

universe u

namespace AnswerSetLearning

instance TrainingExample.isStrictTotalOrder : IsStrictTotalOrder TrainingExample (· < ·) :=
  RelEmbedding.isStrictTotalOrder (s := fun a b : List (List Literal) => a < b)
    { toFun := TrainingExample.parts
      inj' := fun ⟨_, _, _⟩ ⟨_, _, _⟩ h => by cases h; rfl
      map_rel_iff' := Iff.rfl }

def LearningTask.Holds (learning : LearningTask) : Push → Prop
  | .positive e => e ∈ learning.positives
  | .negative e => e ∈ learning.negatives
  | .positiveBody l => l ∈ learning.space.positiveBody
  | .generalBody l => l ∈ learning.space.generalBody
  | .head l => l ∈ learning.space.head
  | .background r => r ∈ learning.background

def Push.IsWord : Push → Prop
  | .positiveBody _ | .generalBody _ | .head _ => True
  | .positive _ | .negative _ | .background _ => False

namespace Builder

theorem normalized_eq_of_mem_iff {α : Type u} [LT α] [DecidableLT α] [DecidableEq α]
    [IsStrictTotalOrder α (· < ·)] {l m : List α}
    (h : ∀ a, a ∈ normalized l ↔ a ∈ normalized m) : normalized l = normalized m :=
  congrArg SortedSet.items ((SortedSet.normal_ofList l).ext (SortedSet.normal_ofList m) h)

variable {b c : Builder}

theorem not_holds_build_empty {p : Push} : ¬ empty.build.Holds p := by
  cases p <;> simp [empty, build, LearningTask.Holds, mem_normalized]

theorem holds_build_push {p q : Push} : (b.push q).build.Holds p ↔ b.build.Holds p ∨ p = q := by
  cases p <;> cases q <;> simp [push, build, LearningTask.Holds, mem_normalized]

theorem holds_build_pushAll {ps : List Push} {p : Push} :
    (b.pushAll ps).build.Holds p ↔ b.build.Holds p ∨ p ∈ ps := by
  induction ps generalizing b with
  | nil => simp [pushAll]
  | cons q ps ih =>
    rw [pushAll, List.foldl_cons, ← pushAll, ih, holds_build_push, List.mem_cons, or_assoc]

theorem space_eq_of_holds (hwords : ∀ p, p.IsWord → (b.build.Holds p ↔ c.build.Holds p)) :
    b.build.space = c.build.space := by
  have hpositiveBody := normalized_eq_of_mem_iff fun l => hwords (.positiveBody l) trivial
  have hgeneralBody := normalized_eq_of_mem_iff fun l => hwords (.generalBody l) trivial
  have hhead := normalized_eq_of_mem_iff fun l => hwords (.head l) trivial
  simp only [build, hpositiveBody, hgeneralBody, hhead]

theorem build_eq_of_holds (hparts : ∀ p, b.build.Holds p ↔ c.build.Holds p)
    (hbackground : b.background = c.background) : b.build = c.build := by
  have hspace := space_eq_of_holds fun p _ => hparts p
  have hpositives := normalized_eq_of_mem_iff fun e => hparts (.positive e)
  have hnegatives := normalized_eq_of_mem_iff fun e => hparts (.negative e)
  simp only [build] at hspace ⊢
  rw [hspace, hpositives, hnegatives, hbackground]

end Builder

section Scripts

variable {registry : Registry} {univ : LitSet} {e : Example} {ctx : List Literal}

theorem Example.outputs_ne_nil_of_mem_groups (he : e.Normal) {g : LitSet × List LitSet}
    (hg : g ∈ groups e.candidates) : e.outputs ≠ [] := by
  have hnormal (c) (hc : c ∈ e.candidates) := normal_of_mem_candidates he hc
  have ha : g.1 ∈ e.candidates := ((mem_group_iff hnormal hg).1 List.mem_cons_self).1
  obtain ⟨hproposal, hspurious⟩ := (mem_candidates he).1 ha
  obtain ⟨-, -, hsize, -⟩ := mem_proposals.1 hproposal
  obtain ⟨i, hi⟩ := List.exists_mem_of_length_pos hsize
  obtain ⟨⟨s, hs, -⟩, -⟩ := (mem_added he).1 (hspurious.added hi)
  exact List.ne_nil_of_mem hs

theorem ExcludesInterval.eq {a b : LitSet} {m n : TrainingExample}
    (hm : ExcludesInterval registry univ e ctx a b m)
    (hn : ExcludesInterval registry univ e ctx a b n) : m = n := by
  have hincl := Except.ok.inj (hm.incl.symm.trans hn.incl)
  have hexcl := Except.ok.inj (hm.excl.symm.trans hn.excl)
  have hctx := hm.ctx.trans hn.ctx.symm
  cases m
  cases n
  simp_all

theorem positive_mem_trainingScript (hu : registry.Registers univ) (he : e.RegisteredIn registry)
    {s : LitSet} (hs : s ∈ e.outputs) {p : TrainingExample}
    (hp : Accepts registry univ ctx s p) :
    .positive p ∈ (trainingScript registry univ e ctx).pushes := by
  have hfault : (trainingScript registry univ e ctx).fault = none := fault_trainingScript hu he
  have hout : e.outputs ≠ [] := List.ne_nil_of_mem hs
  rw [trainingScript, if_neg (by simpa using hout)] at hfault ⊢
  rw [Script.fault_andThen] at hfault
  rw [Script.mem_andThen_iff hfault.1]
  refine .inl (Script.mem_concat_of_mem hfault.1 (List.mem_map_of_mem hs) ?_)
  exact positive_mem_acceptOutput_iff.2 hp

theorem negative_mem_trainingScript (hu : registry.Registers univ) (he : e.RegisteredIn registry)
    {n : TrainingExample} (hn : Excludes registry univ e ctx n) :
    .negative n ∈ (trainingScript registry univ e ctx).pushes := by
  have hfault : (trainingScript registry univ e ctx).fault = none := fault_trainingScript hu he
  rw [trainingScript] at hfault ⊢
  cases hn with
  | everything hout =>
    rw [if_pos (List.isEmpty_iff.2 hout)]
    exact List.mem_singleton_self _
  | literal hout hi hn =>
    rw [if_neg (by simpa using hout), Script.fault_andThen, Script.fault_andThen] at hfault
    rw [if_neg (by simpa using hout), Script.mem_andThen_iff hfault.1,
      Script.mem_andThen_iff hfault.2.1]
    refine .inr (.inl (Script.mem_concat_of_mem hfault.2.1 (List.mem_map_of_mem hi) ?_))
    exact negative_mem_excludeLiteral_iff.2 hn
  | interval hg hb hn =>
    obtain ⟨m, hmem, hm⟩ :=
      excludeSpurious_of_registers ctx hu (fun g hg => he.leader hg) hg hb
    have hout := Example.outputs_ne_nil_of_mem_groups he.toNormal hg
    rw [if_neg (by simpa using hout), Script.fault_andThen, Script.fault_andThen] at hfault
    rw [if_neg (by simpa using hout), Script.mem_andThen_iff hfault.1,
      Script.mem_andThen_iff hfault.2.1, hn.eq hm]
    exact .inr (.inr hmem)

theorem mem_exampleScript_iff (hu : registry.Registers univ) (he : e.RegisteredIn registry)
    {p : Push} :
    p ∈ (exampleScript registry univ e).pushes ↔
      ∃ ctx, registry.resolve e.input.items = .ok ctx ∧ Pushes registry univ e ctx p := by
  refine ⟨pushes_of_mem, ?_⟩
  rintro ⟨ctx, hctx, hp⟩
  obtain ⟨added, hadded⟩ := Registry.exists_resolve he.added
  rw [exampleScript, Script.resolving_of_ok hctx,
    Script.mem_andThen_iff (fault_trainingScript hu he)]
  have hwords {p : Push} : p ∈ (vocabularyScript registry e ctx).pushes ↔
      p ∈ added.flatMap (fun l => [.head l, .generalBody l]) ++ ctx.map .positiveBody := by
    rw [vocabularyScript, Script.resolving_of_ok hadded, Script.mem_of]
  cases hp with
  | positive hs hp => exact .inl (positive_mem_trainingScript hu he hs hp)
  | negative hn => exact .inl (negative_mem_trainingScript hu he hn)
  | head hl =>
    have hl := (Registry.mem_of_resolve hadded).2 hl
    exact .inr (hwords.2 (by simp [hl]))
  | generalBody hl =>
    have hl := (Registry.mem_of_resolve hadded).2 hl
    exact .inr (hwords.2 (by simp [hl]))
  | positiveBody hl => exact .inr (hwords.2 (by simp [hl]))

end Scripts

section Synthesis

variable {t : Task} {univ : LitSet} {learning : LearningTask}

theorem holds_of_synthesize (h : synthesize t univ = .ok learning) {p : Push} :
    learning.Holds p ↔ p ∈ (taskScript t univ).pushes := by
  obtain ⟨-, rfl⟩ := taskScript_of_synthesize h
  rw [Builder.holds_build_pushAll, or_iff_right Builder.not_holds_build_empty]

theorem holds_iff (hu : t.registry.Registers univ)
    (ht : ∀ e ∈ t.examples, e.RegisteredIn t.registry)
    (h : synthesize t univ = .ok learning) {p : Push} (hp : ∀ r, p ≠ .background r) :
    learning.Holds p ↔ ∃ e ∈ t.examples, ∃ ctx,
      t.registry.resolve e.input.items = .ok ctx ∧ Pushes t.registry univ e ctx p := by
  rw [holds_of_synthesize h, mem_taskScript_iff h hp]
  exact exists_congr fun e => and_congr_right fun he => mem_exampleScript_iff hu (ht e he)

end Synthesis

end AnswerSetLearning
