import AnswerSetLearning.Proofs.Induction.Pushes

namespace AnswerSetLearning

@[mk_iff]
structure Example.SameSets (e f : Example) : Prop where
  input : e.input = f.input
  outputs_subset : e.outputs ⊆ f.outputs
  subset_outputs : f.outputs ⊆ e.outputs

instance (e f : Example) : Decidable (e.SameSets f) :=
  decidable_of_iff' _ (Example.sameSets_iff e f)

/-- The tasks have the same examples, as sets of examples with sets of outputs. -/
@[mk_iff]
structure Task.SameSets (t u : Task) : Prop where
  registry : t.registry = u.registry
  background : t.background = u.background
  left : ∀ e ∈ t.examples, ∃ f ∈ u.examples, e.SameSets f
  right : ∀ f ∈ u.examples, ∃ e ∈ t.examples, e.SameSets f

instance (t u : Task) : Decidable (t.SameSets u) := decidable_of_iff' _ (Task.sameSets_iff t u)

namespace Example.SameSets

variable {e f : Example}

theorem symm (h : e.SameSets f) : f.SameSets e :=
  ⟨h.input.symm, h.subset_outputs, h.outputs_subset⟩

theorem mem_outputs_iff (h : e.SameSets f) {s : LitSet} : s ∈ e.outputs ↔ s ∈ f.outputs :=
  ⟨fun hs => h.outputs_subset hs, fun hs => h.subset_outputs hs⟩

theorem outputs_eq_nil_iff (h : e.SameSets f) : e.outputs = [] ↔ f.outputs = [] := by
  simp only [List.eq_nil_iff_forall_not_mem, h.mem_outputs_iff]

theorem outputLiterals_eq (h : e.SameSets f) : e.outputLiterals = f.outputLiterals :=
  e.normal_outputLiterals.ext f.normal_outputLiterals fun i => by
    simp only [Example.mem_outputLiterals, h.mem_outputs_iff]

theorem added_eq (h : e.SameSets f) : e.added = f.added := by
  rw [Example.added, Example.added, h.outputLiterals_eq, h.input]

theorem mem_targets_iff (h : e.SameSets f) {s : LitSet} : s ∈ e.targets ↔ s ∈ f.targets := by
  simp only [Example.targets, List.mem_map, h.mem_outputs_iff, h.input]

theorem candidates_eq (h : e.SameSets f) : e.candidates = f.candidates := by
  have hkeep (p : LitSet → Bool) : e.targets.any p = f.targets.any p := by
    rw [Bool.eq_iff_iff]
    simp only [List.any_eq_true, h.mem_targets_iff]
  rw [Example.candidates_eq_filter, Example.candidates_eq_filter, Example.proposals,
    Example.proposals, h.added_eq]
  simp only [hkeep]

theorem registeredIn (h : e.SameSets f) {registry : Registry} (he : e.RegisteredIn registry) :
    f.RegisteredIn registry where
  input := h.input ▸ he.input
  outputs s hs := he.outputs s (h.subset_outputs hs)
  registers_input := h.input ▸ he.registers_input
  registers_outputs s hs := he.registers_outputs s (h.subset_outputs hs)

variable {registry : Registry} {univ : LitSet} {ctx : List Literal}

theorem excludesInterval (h : e.SameSets f) {a b : LitSet} {n : TrainingExample}
    (hn : ExcludesInterval registry univ e ctx a b n) :
    ExcludesInterval registry univ f ctx a b n :=
  ⟨h.input ▸ hn.incl, h.input ▸ hn.excl, hn.ctx⟩

theorem excludes (h : e.SameSets f) {n : TrainingExample} (hn : Excludes registry univ e ctx n) :
    Excludes registry univ f ctx n := by
  cases hn with
  | everything hout => exact .everything (h.outputs_eq_nil_iff.1 hout)
  | literal hout hi hn =>
    exact .literal (mt h.outputs_eq_nil_iff.2 hout) (h.outputLiterals_eq ▸ hi) hn
  | interval hg hb hn => exact .interval (h.candidates_eq ▸ hg) hb (h.excludesInterval hn)

theorem pushes (h : e.SameSets f) {p : Push} (hp : Pushes registry univ e ctx p) :
    Pushes registry univ f ctx p := by
  cases hp with
  | positive hs hp => exact .positive (h.outputs_subset hs) hp
  | negative hn => exact .negative (h.excludes hn)
  | head hl => exact .head (h.added_eq ▸ hl)
  | generalBody hl => exact .generalBody (h.added_eq ▸ hl)
  | positiveBody hl => exact .positiveBody hl

end Example.SameSets

namespace Task.SameSets

variable {t u : Task}

theorem symm (h : t.SameSets u) : u.SameSets t where
  registry := h.registry.symm
  background := h.background.symm
  left f hf := (h.right f hf).imp fun _ he => ⟨he.1, he.2.symm⟩
  right e he := (h.left e he).imp fun _ hf => ⟨hf.1, hf.2.symm⟩

theorem registeredIn (h : t.SameSets u) (ht : ∀ e ∈ t.examples, e.RegisteredIn t.registry) :
    ∀ f ∈ u.examples, f.RegisteredIn u.registry := by
  intro f hf
  obtain ⟨e, he, hef⟩ := h.right f hf
  exact h.registry ▸ hef.registeredIn (ht e he)

theorem holds {univ : LitSet} {learning learning' : LearningTask} (h : t.SameSets u)
    (hu : t.registry.Registers univ) (ht : ∀ e ∈ t.examples, e.RegisteredIn t.registry)
    (hlearning : synthesize t univ = .ok learning)
    (hlearning' : synthesize u univ = .ok learning') {p : Push} (hp : learning.Holds p) :
    learning'.Holds p := by
  have hu' : u.registry.Registers univ := h.registry ▸ hu
  cases p with
  | background r =>
    have hp : r ∈ learning.background := hp
    rw [background_of_synthesize hlearning, h.background,
      ← background_of_synthesize hlearning'] at hp
    exact hp
  | _ =>
    rw [holds_iff hu ht hlearning (by simp)] at hp
    obtain ⟨e, he, ctx, hctx, hp⟩ := hp
    obtain ⟨f, hf, hef⟩ := h.left e he
    rw [holds_iff hu' (h.registeredIn ht) hlearning' (by simp), ← h.registry]
    exact ⟨f, hf, ctx, hef.input ▸ hctx, hef.pushes hp⟩

end Task.SameSets

/-- The learning task depends on the examples only as a set, and on their outputs only as sets:
where everything is registered there is one, and it is the same. -/
theorem synthesize_eq_of_sameSets {t u : Task} {univ : LitSet} (h : t.SameSets u)
    (hu : t.registry.Registers univ) (ht : ∀ e ∈ t.examples, e.RegisteredIn t.registry) :
    ∃ learning, synthesize t univ = .ok learning ∧ synthesize u univ = .ok learning := by
  have hu' : u.registry.Registers univ := h.registry ▸ hu
  have hlearning := synthesize_of_fault (fault_taskScript hu rfl ht)
  have hlearning' := synthesize_of_fault (fault_taskScript hu' rfl (h.registeredIn ht))
  refine ⟨_, hlearning, ?_⟩
  rw [hlearning']
  refine congrArg _ (Builder.build_eq_of_holds (fun p => ?_) ?_)
  · exact ⟨h.symm.holds hu' (h.registeredIn ht) hlearning' hlearning,
      h.holds hu ht hlearning hlearning'⟩
  · calc
      _ = u.background := background_of_synthesize hlearning'
      _ = t.background := h.background.symm
      _ = _ := (background_of_synthesize hlearning).symm

def twoExamples : Task := ⟨letters, [], [overlapping, ⟨⟨[2]⟩, []⟩]⟩

def shuffledExamples : Task where
  registry := letters
  background := []
  examples :=
    [⟨⟨[2]⟩, []⟩, ⟨⟨[]⟩, [⟨[1, 4, 5]⟩, ⟨[1, 2, 3]⟩, ⟨[1, 4, 5]⟩]⟩, overlapping, ⟨⟨[2]⟩, []⟩]

theorem synthesize_shuffledExamples :
    twoExamples.SameSets shuffledExamples ∧ letters.Registers alphabet ∧
      (∀ e ∈ twoExamples.examples, e.RegisteredIn letters) ∧
      ∃ learning, synthesize twoExamples alphabet = .ok learning ∧
        synthesize shuffledExamples alphabet = .ok learning := by
  have hsame : twoExamples.SameSets shuffledExamples := by decide
  have hregistered : ∀ e ∈ twoExamples.examples, e.RegisteredIn letters :=
    List.forall_mem_cons.2 ⟨⟨by decide, by decide, by decide⟩,
      List.forall_mem_singleton.2 ⟨by decide, by decide, by decide⟩⟩
  exact ⟨hsame, by decide, hregistered, synthesize_eq_of_sameSets hsame (by decide) hregistered⟩

end AnswerSetLearning
