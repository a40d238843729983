import AnswerSetLearning.Proofs.Induction.InvalidNumbers
import AnswerSetLearning.Proofs.Induction.Pushes

namespace AnswerSetLearning

/-! ## Lists of sets -/

namespace Registry

variable {r : Registry} {ls ms : List Literal}

/-- The list holds the literals of a set, in the order of their numbers. -/
def Lists (r : Registry) (ls : List Literal) : Prop :=
  ∃ s : LitSet, s.Normal ∧ r.resolve s.items = .ok ls

theorem lists_nil (r : Registry) : r.Lists [] := ⟨.empty, List.Pairwise.nil, rfl⟩

theorem Lists.nodup (hr : r.WellFormed) (h : r.Lists ls) : ls.Nodup := by
  obtain ⟨s, hs, hls⟩ := h
  have hregisters : r.Registers s := exists_resolve_iff.1 ⟨ls, hls⟩
  have hmap : (s.items.map r.get?).Nodup := by
    refine hs.nodup.map_on fun i hi j _ hij => ?_
    obtain ⟨l, hl⟩ := hregisters i hi
    exact get?_injective hr hl (hij ▸ hl)
  rw [resolve_eq_ok_iff.1 hls] at hmap
  exact hmap.of_map some

theorem Lists.eq_of_mem_iff (hr : r.WellFormed) (hls : r.Lists ls) (hms : r.Lists ms)
    (h : ∀ l, l ∈ ls ↔ l ∈ ms) : ls = ms := by
  obtain ⟨s, hs, hls⟩ := hls
  obtain ⟨t, ht, hms⟩ := hms
  have hdenote : r.denote s = r.denote t := by
    ext l
    rw [← mem_of_resolve hls, h, mem_of_resolve hms]
  have hst : s ⊆ t := (denote_subset_iff hr (exists_resolve_iff.1 ⟨_, hls⟩)).1 hdenote.subset
  have hts : t ⊆ s := (denote_subset_iff hr (exists_resolve_iff.1 ⟨_, hms⟩)).1 hdenote.superset
  cases hs.ext ht fun i => ⟨@hst i, @hts i⟩
  exact Except.ok.inj (hls.symm.trans hms)

end Registry

namespace TrainingExample

/-- The examples are the same when each part is taken as a set of literals. -/
structure SameLiterals (p q : TrainingExample) : Prop where
  incl : ∀ l, l ∈ p.incl ↔ l ∈ q.incl
  excl : ∀ l, l ∈ p.excl ↔ l ∈ q.excl
  ctx : ∀ l, l ∈ p.ctx ↔ l ∈ q.ctx

structure ListedIn (p : TrainingExample) (r : Registry) : Prop where
  incl : r.Lists p.incl
  excl : r.Lists p.excl
  ctx : r.Lists p.ctx

theorem ListedIn.eq_of_sameLiterals {r : Registry} (hr : r.WellFormed) {p q : TrainingExample}
    (hp : p.ListedIn r) (hq : q.ListedIn r) (h : p.SameLiterals q) : p = q := by
  have hincl := hp.incl.eq_of_mem_iff hr hq.incl h.incl
  have hexcl := hp.excl.eq_of_mem_iff hr hq.excl h.excl
  have hctx := hp.ctx.eq_of_mem_iff hr hq.ctx h.ctx
  cases p
  cases q
  simp_all

theorem pairwise_not_sameLiterals {r : Registry} (hr : r.WellFormed) {ps : List TrainingExample}
    (hps : ∀ p ∈ ps, p.ListedIn r) (h : ps.Pairwise (· < ·)) :
    ps.Pairwise fun p q => ¬ p.SameLiterals q := by
  refine h.imp_of_mem fun {p q} hp hq hlt hsame => ?_
  rw [(hps p hp).eq_of_sameLiterals hr (hps q hq) hsame] at hlt
  exact irrefl_of (· < ·) q hlt

end TrainingExample

section Examples

variable {registry : Registry} {univ : LitSet} {e : Example} {ctx : List Literal}
  {p n : TrainingExample}

theorem Accepts.listedIn (hu : univ.Normal) {s : LitSet} (hs : s.Normal)
    (hctx : registry.Lists ctx) (h : Accepts registry univ ctx s p) : p.ListedIn registry where
  incl := ⟨s, hs, h.incl⟩
  excl := ⟨univ.diff s, hu.diff, h.excl⟩
  ctx := h.ctx ▸ hctx

theorem Excludes.listedIn (hu : univ.Normal) (he : e.Normal) (hctx : registry.Lists ctx)
    (h : Excludes registry univ e ctx n) : n.ListedIn registry := by
  have hctx : registry.Lists n.ctx := h.ctx_eq ▸ hctx
  cases h with
  | everything => exact ⟨registry.lists_nil, registry.lists_nil, hctx⟩
  | @literal i _ _ _ hn =>
    exact ⟨⟨⟨[i]⟩, List.pairwise_singleton _ i, hn.incl⟩, hn.excl ▸ registry.lists_nil, hctx⟩
  | @interval a b _ _ hg hb hn =>
    obtain ⟨ha, -, -⟩ := Example.leader_of_mem_largest he hg hb
    have ha := Example.normal_of_mem_candidates he ha
    exact ⟨⟨_, ha.union he.input, hn.incl⟩, ⟨_, hu.diff, hn.excl⟩, hctx⟩

theorem exists_accepts (hu : registry.Registers univ) {s : LitSet} (hs : registry.Registers s)
    (ctx : List Literal) : ∃ p, Accepts registry univ ctx s p := by
  obtain ⟨incl, hincl⟩ := Registry.exists_resolve hs
  obtain ⟨excl, hexcl⟩ := Registry.exists_resolve (hu.diff s)
  exact ⟨⟨incl, excl, ctx⟩, hincl, hexcl, rfl⟩

theorem pushes_iff {q : Push} :
    Pushes registry univ e ctx q ↔
      match q with
      | .positive p => ∃ s ∈ e.outputs, Accepts registry univ ctx s p
      | .negative n => Excludes registry univ e ctx n
      | .head l | .generalBody l => l ∈ registry.denote e.added
      | .positiveBody l => l ∈ ctx
      | .background _ => False := by
  constructor
  · rintro (⟨hs, hp⟩ | hn | hl | hl | hl)
    · exact ⟨_, hs, hp⟩
    all_goals assumption
  · intro h
    cases q with
    | positive p =>
      obtain ⟨s, hs, hp⟩ := h
      exact .positive hs hp
    | negative n => exact .negative h
    | head l => exact .head h
    | generalBody l => exact .generalBody h
    | positiveBody l => exact .positiveBody h
    | background r => exact h.elim

end Examples

/-! ## Built tasks -/

namespace LearningTask

structure Normal (t : LearningTask) : Prop where
  positives : t.positives.Pairwise (· < ·)
  negatives : t.negatives.Pairwise (· < ·)
  positiveBody : t.space.positiveBody.Pairwise (· < ·)
  generalBody : t.space.generalBody.Pairwise (· < ·)
  head : t.space.head.Pairwise (· < ·)

end LearningTask

theorem Builder.normal_build (b : Builder) : b.build.Normal where
  positives := SortedSet.normal_ofList _
  negatives := SortedSet.normal_ofList _
  positiveBody := SortedSet.normal_ofList _
  generalBody := SortedSet.normal_ofList _
  head := SortedSet.normal_ofList _

section Synthesis

variable {t : Task} {univ : LitSet} {learning : LearningTask}

theorem normal_of_synthesize (h : synthesize t univ = .ok learning) : learning.Normal := by
  obtain ⟨-, rfl⟩ := taskScript_of_synthesize h
  exact Builder.normal_build _

variable (hu : t.registry.Registers univ) (ht : ∀ e ∈ t.examples, e.RegisteredIn t.registry)

include hu ht

theorem exists_synthesize : ∃ learning, synthesize t univ = .ok learning :=
  ⟨_, synthesize_of_fault (fault_taskScript hu rfl ht)⟩

variable (h : synthesize t univ = .ok learning)

include h

theorem mem_positives_iff_accepts {p : TrainingExample} :
    p ∈ learning.positives ↔ ∃ e ∈ t.examples, ∃ ctx,
      t.registry.resolve e.input.items = .ok ctx ∧
        ∃ s ∈ e.outputs, Accepts t.registry univ ctx s p :=
  (holds_iff hu ht h (p := .positive p) (by simp)).trans (by simp only [pushes_iff])

theorem mem_negatives_iff_excludes {n : TrainingExample} :
    n ∈ learning.negatives ↔ ∃ e ∈ t.examples, ∃ ctx,
      t.registry.resolve e.input.items = .ok ctx ∧ Excludes t.registry univ e ctx n :=
  (holds_iff hu ht h (p := .negative n) (by simp)).trans (by simp only [pushes_iff])

theorem mem_head_iff {l : Literal} :
    l ∈ learning.space.head ↔ ∃ e ∈ t.examples, ∃ ctx,
      t.registry.resolve e.input.items = .ok ctx ∧ l ∈ t.registry.denote e.added :=
  (holds_iff hu ht h (p := .head l) (by simp)).trans (by simp only [pushes_iff])

theorem mem_generalBody_iff {l : Literal} :
    l ∈ learning.space.generalBody ↔ ∃ e ∈ t.examples, ∃ ctx,
      t.registry.resolve e.input.items = .ok ctx ∧ l ∈ t.registry.denote e.added :=
  (holds_iff hu ht h (p := .generalBody l) (by simp)).trans (by simp only [pushes_iff])

theorem mem_positiveBody_iff {l : Literal} :
    l ∈ learning.space.positiveBody ↔ ∃ e ∈ t.examples, ∃ ctx,
      t.registry.resolve e.input.items = .ok ctx ∧ l ∈ ctx :=
  (holds_iff hu ht h (p := .positiveBody l) (by simp)).trans (by simp only [pushes_iff])

/-! ### The training examples -/

theorem listedIn_of_synthesize (hnormal : univ.Normal) :
    ∀ p ∈ learning.positives ++ learning.negatives, p.ListedIn t.registry := by
  intro p hp
  rcases List.mem_append.1 hp with hp | hp
  · obtain ⟨e, he, ctx, hctx, s, hs, hp⟩ := (mem_positives_iff_accepts hu ht h).1 hp
    exact hp.listedIn hnormal ((ht e he).outputs s hs) ⟨_, (ht e he).input, hctx⟩
  · obtain ⟨e, he, ctx, hctx, hn⟩ := (mem_negatives_iff_excludes hu ht h).1 hp
    exact hn.listedIn hnormal (ht e he).toNormal ⟨_, (ht e he).input, hctx⟩

theorem exists_ctx_eq_iff {ctx : List Literal} :
    (∃ p ∈ learning.positives ++ learning.negatives, p.ctx = ctx) ↔
      ∃ e ∈ t.examples, t.registry.resolve e.input.items = .ok ctx := by
  constructor
  · rintro ⟨p, hp, rfl⟩
    rcases List.mem_append.1 hp with hp | hp
    · obtain ⟨e, he, ctx, hctx, s, -, hp⟩ := (mem_positives_iff_accepts hu ht h).1 hp
      exact ⟨e, he, hp.ctx ▸ hctx⟩
    · obtain ⟨e, he, ctx, hctx, hn⟩ := (mem_negatives_iff_excludes hu ht h).1 hp
      exact ⟨e, he, hn.ctx_eq ▸ hctx⟩
  · rintro ⟨e, he, hctx⟩
    by_cases hout : e.outputs = []
    · have hn := (mem_negatives_iff_excludes hu ht h).2 ⟨e, he, ctx, hctx, .everything hout⟩
      exact ⟨_, List.mem_append_right _ hn, rfl⟩
    · obtain ⟨s, hs⟩ := List.exists_mem_of_ne_nil _ hout
      obtain ⟨p, hp⟩ := exists_accepts hu ((ht e he).registers_outputs s hs) ctx
      have hpos := (mem_positives_iff_accepts hu ht h).2 ⟨e, he, ctx, hctx, s, hs, hp⟩
      exact ⟨p, List.mem_append_left _ hpos, hp.ctx⟩

/-! ### The words -/

theorem head_eq_generalBody : learning.space.head = learning.space.generalBody := by
  have hnormal := normal_of_synthesize h
  have hmem (l : Literal) : l ∈ learning.space.head ↔ l ∈ learning.space.generalBody :=
    (mem_head_iff hu ht h).trans (mem_generalBody_iff hu ht h).symm
  exact congrArg SortedSet.items (SortedSet.Normal.ext (s := ⟨_⟩) (t := ⟨_⟩) hnormal.head
    hnormal.generalBody hmem)

theorem mem_head_or_mem_ctx {p : TrainingExample} (hp : p ∈ learning.positives) {l : Literal}
    (hl : l ∈ p.incl) : l ∈ learning.space.head ∨ l ∈ p.ctx := by
  obtain ⟨e, he, ctx, hctx, s, hs, hp⟩ := (mem_positives_iff_accepts hu ht h).1 hp
  obtain ⟨i, hi, hl⟩ := (Registry.mem_of_resolve hp.incl).1 hl
  by_cases hinput : i ∈ e.input
  · right
    rw [hp.ctx]
    exact (Registry.mem_of_resolve hctx).2 ⟨i, hinput, hl⟩
  · have hadded : i ∈ e.added :=
      (Example.mem_added (ht e he).toNormal).2 ⟨⟨s, hs, hi⟩, hinput⟩
    exact .inl ((mem_head_iff hu ht h).2 ⟨e, he, ctx, hctx, i, hadded, hl⟩)

theorem exists_positive_of_mem_head (hr : t.registry.WellFormed) {l : Literal}
    (hl : l ∈ learning.space.head) : ∃ p ∈ learning.positives, l ∈ p.incl ∧ l ∉ p.ctx := by
  obtain ⟨e, he, ctx, hctx, i, hadded, hl⟩ := (mem_head_iff hu ht h).1 hl
  obtain ⟨⟨s, hs, hi⟩, hinput⟩ := (Example.mem_added (ht e he).toNormal).1 hadded
  obtain ⟨p, hp⟩ := exists_accepts hu ((ht e he).registers_outputs s hs) ctx
  refine ⟨p, (mem_positives_iff_accepts hu ht h).2 ⟨e, he, ctx, hctx, s, hs, hp⟩,
    (Registry.mem_of_resolve hp.incl).2 ⟨i, hi, hl⟩, ?_⟩
  rwa [hp.ctx, Registry.mem_of_resolve hctx, Registry.mem_denote_iff hr hl]

theorem mem_positiveBody_iff_exists_mem_ctx {l : Literal} :
    l ∈ learning.space.positiveBody ↔
      ∃ p ∈ learning.positives ++ learning.negatives, l ∈ p.ctx := by
  rw [mem_positiveBody_iff hu ht h]
  constructor
  · rintro ⟨e, he, ctx, hctx, hl⟩
    obtain ⟨p, hp, rfl⟩ := (exists_ctx_eq_iff hu ht h).2 ⟨e, he, hctx⟩
    exact ⟨p, hp, hl⟩
  · rintro ⟨p, hp, hl⟩
    obtain ⟨e, he, hctx⟩ := (exists_ctx_eq_iff hu ht h).1 ⟨p, hp, rfl⟩
    exact ⟨e, he, p.ctx, hctx, hl⟩

end Synthesis

/-- No two training examples of a task are the same, even when their parts are taken as sets of
literals, and no part holds a literal twice. -/
theorem trainingExamples_distinct {t : Task} {univ : LitSet} (hr : t.registry.WellFormed)
    (hnormal : univ.Normal) (hu : t.registry.Registers univ)
    (ht : ∀ e ∈ t.examples, e.RegisteredIn t.registry) :
    ∃ learning, synthesize t univ = .ok learning ∧
      (learning.positives.Pairwise fun p q => p < q ∧ ¬ p.SameLiterals q) ∧
      (learning.negatives.Pairwise fun p q => p < q ∧ ¬ p.SameLiterals q) ∧
      ∀ p ∈ learning.positives ++ learning.negatives,
        p.incl.Nodup ∧ p.excl.Nodup ∧ p.ctx.Nodup := by
  obtain ⟨learning, h⟩ := exists_synthesize hu ht
  have hlisted := listedIn_of_synthesize hu ht h hnormal
  have hordered := normal_of_synthesize h
  refine ⟨learning, h, ?_, ?_, fun p hp => ?_⟩
  · exact List.pairwise_and_iff.2 ⟨hordered.positives, TrainingExample.pairwise_not_sameLiterals hr
      (fun p hp => hlisted p (List.mem_append_left _ hp)) hordered.positives⟩
  · exact List.pairwise_and_iff.2 ⟨hordered.negatives, TrainingExample.pairwise_not_sameLiterals hr
      (fun n hn => hlisted n (List.mem_append_right _ hn)) hordered.negatives⟩
  · have hp := hlisted p hp
    exact ⟨hp.incl.nodup hr, hp.excl.nodup hr, hp.ctx.nodup hr⟩

def sharedInputs : Task where
  registry := letters
  background := []
  examples := [⟨⟨[1]⟩, [⟨[1, 2]⟩, ⟨[3]⟩]⟩, ⟨⟨[1]⟩, [⟨[1, 4]⟩]⟩, ⟨⟨[2]⟩, []⟩]

def sharedLearning : LearningTask :=
  let lits (names : List String) : List Literal := names.map (⟨·, []⟩)
  { positives :=
      [⟨lits ["a", "b"], lits ["c", "d", "e"], lits ["a"]⟩,
        ⟨lits ["a", "d"], lits ["b", "c", "e"], lits ["a"]⟩,
        ⟨lits ["c"], lits ["a", "b", "d", "e"], lits ["a"]⟩]
    negatives :=
      ⟨[], [], lits ["b"]⟩ :: ["b", "c", "d", "e"].map fun x => ⟨lits [x], [], lits ["a"]⟩
    space := ⟨lits ["a", "b"], lits ["b", "c", "d"], lits ["b", "c", "d"]⟩
    background := [] }

theorem synthesize_sharedInputs : synthesize sharedInputs alphabet = .ok sharedLearning := by cbv

theorem sharedInputs_registered : ∀ e ∈ sharedInputs.examples, e.RegisteredIn letters :=
  List.forall_mem_cons.2 ⟨⟨by decide, by decide, by decide⟩, List.forall_mem_cons.2
    ⟨⟨by decide, by decide, by decide⟩, List.forall_mem_singleton.2
      ⟨by decide, by decide, by decide⟩⟩⟩

theorem sharedInputs_distinct :
    letters.WellFormed ∧ alphabet.Normal ∧ letters.Registers alphabet ∧
      (∀ e ∈ sharedInputs.examples, e.RegisteredIn letters) ∧
      synthesize sharedInputs alphabet = .ok sharedLearning ∧
      (sharedLearning.negatives.Pairwise fun p q => p < q ∧ ¬ p.SameLiterals q) ∧
      ∀ p ∈ sharedLearning.positives, p.excl.Nodup := by
  have hr : letters.WellFormed := by decide
  have hu : letters.Registers alphabet := by decide
  have halphabet : alphabet.Normal := by decide
  obtain ⟨learning, h, -, hnegatives, hnodup⟩ := trainingExamples_distinct (t := sharedInputs) hr
    halphabet hu sharedInputs_registered
  cases h.symm.trans synthesize_sharedInputs
  exact ⟨hr, halphabet, hu, sharedInputs_registered, h, hnegatives,
    fun p hp => (hnodup p (List.mem_append_left _ hp)).2.1⟩

/-- The search space and the training examples of a task agree: heads and general body literals are
those that some positive example asks for and does not give, and the positive body literals are
those of the contexts. -/
theorem vocabulary_agrees {t : Task} {univ : LitSet} (hr : t.registry.WellFormed)
    (hu : t.registry.Registers univ) (ht : ∀ e ∈ t.examples, e.RegisteredIn t.registry) :
    ∃ learning, synthesize t univ = .ok learning ∧
      learning.space.head = learning.space.generalBody ∧
      learning.space.head.Pairwise (· < ·) ∧
      (∀ p ∈ learning.positives, ∀ l ∈ p.incl, l ∈ learning.space.head ∨ l ∈ p.ctx) ∧
      (∀ l ∈ learning.space.head, ∃ p ∈ learning.positives, l ∈ p.incl ∧ l ∉ p.ctx) ∧
      learning.space.positiveBody.Pairwise (· < ·) ∧
      ∀ l, l ∈ learning.space.positiveBody ↔
        ∃ p ∈ learning.positives ++ learning.negatives, l ∈ p.ctx := by
  obtain ⟨learning, h⟩ := exists_synthesize hu ht
  have hordered := normal_of_synthesize h
  exact ⟨learning, h, head_eq_generalBody hu ht h, hordered.head,
    fun _ hp _ => mem_head_or_mem_ctx hu ht h hp, fun _ => exists_positive_of_mem_head hu ht h hr,
    hordered.positiveBody, fun _ => mem_positiveBody_iff_exists_mem_ctx hu ht h⟩

theorem sharedInputs_agrees :
    letters.WellFormed ∧ letters.Registers alphabet ∧
      (∀ e ∈ sharedInputs.examples, e.RegisteredIn letters) ∧
      synthesize sharedInputs alphabet = .ok sharedLearning ∧
      (∃ p ∈ sharedLearning.positives, ⟨"b", []⟩ ∈ p.incl ∧ ⟨"b", []⟩ ∉ p.ctx) ∧
      ∃ p ∈ sharedLearning.positives ++ sharedLearning.negatives, ⟨"b", []⟩ ∈ p.ctx := by
  have hr : letters.WellFormed := by decide
  have hu : letters.Registers alphabet := by decide
  obtain ⟨learning, h, -, -, -, hheads, -, hcontexts⟩ :=
    vocabulary_agrees (t := sharedInputs) hr hu sharedInputs_registered
  cases h.symm.trans synthesize_sharedInputs
  exact ⟨hr, hu, sharedInputs_registered, h, hheads ⟨"b", []⟩ (by decide),
    (hcontexts ⟨"b", []⟩).1 (by decide)⟩

end AnswerSetLearning
