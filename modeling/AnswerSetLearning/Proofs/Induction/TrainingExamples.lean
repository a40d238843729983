import AnswerSetLearning.Proofs.Induction.Candidates

namespace AnswerSetLearning

namespace Script

theorem andThen_of_ok {s : Script} (h : s.fault = none) (next : Unit → Script) :
    s.andThen next = ⟨s.pushes ++ (next ()).pushes, (next ()).fault⟩ := by
  rw [andThen, h]

theorem mem_andThen {s : Script} {next : Unit → Script} {p : Push}
    (h : p ∈ (s.andThen next).pushes) : p ∈ s.pushes ∨ p ∈ (next ()).pushes := by
  unfold andThen at h
  split at h
  · exact .inl h
  · exact List.mem_append.1 h

theorem mem_andThen_iff {s : Script} {next : Unit → Script} {p : Push} (h : s.fault = none) :
    p ∈ (s.andThen next).pushes ↔ p ∈ s.pushes ∨ p ∈ (next ()).pushes := by
  rw [andThen_of_ok h, List.mem_append]

theorem mem_concat {ss : List Script} {p : Push} (h : p ∈ (concat ss).pushes) :
    ∃ s ∈ ss, p ∈ s.pushes := by
  induction ss with
  | nil => exact absurd h List.not_mem_nil
  | cons s ss ih =>
    rcases mem_andThen h with h | h
    · exact ⟨s, List.mem_cons_self, h⟩
    · obtain ⟨t, ht, h⟩ := ih h
      exact ⟨t, List.mem_cons_of_mem s ht, h⟩

theorem concat_of_ok {ss : List Script} (h : ∀ s ∈ ss, s.fault = none) :
    concat ss = ⟨ss.flatMap Script.pushes, none⟩ := by
  induction ss with
  | nil => rfl
  | cons s ss ih =>
    rw [concat, andThen_of_ok (h s List.mem_cons_self),
      ih fun t ht => h t (List.mem_cons_of_mem s ht), List.flatMap_cons]

theorem fault_andThen {s : Script} {next : Unit → Script} :
    (s.andThen next).fault = none ↔ s.fault = none ∧ (next ()).fault = none := by
  unfold andThen
  cases s.fault with
  | none => simp
  | some e => simp

theorem fault_concat {ss : List Script} :
    (concat ss).fault = none ↔ ∀ s ∈ ss, s.fault = none := by
  induction ss with
  | nil => simp [concat, done]
  | cons s ss ih => rw [concat, fault_andThen, ih, List.forall_mem_cons]

theorem mem_concat_of_mem {ss : List Script} (h : (concat ss).fault = none) {s : Script}
    (hs : s ∈ ss) {p : Push} (hp : p ∈ s.pushes) : p ∈ (concat ss).pushes := by
  rw [concat_of_ok (fault_concat.1 h)]
  exact List.mem_flatMap.2 ⟨s, hs, hp⟩

theorem resolving_of_ok {r : Registry} {is : List Lit} {ls : List Literal}
    (h : r.resolve is = .ok ls) (next : List Literal → Script) :
    resolving r is next = next ls := by
  rw [resolving, h]

theorem mem_resolving {r : Registry} {is : List Lit} {next : List Literal → Script} {p : Push}
    (h : p ∈ (resolving r is next).pushes) :
    ∃ ls, r.resolve is = .ok ls ∧ p ∈ (next ls).pushes := by
  unfold resolving at h
  split at h
  · next ls hls => exact ⟨ls, hls, h⟩
  · exact absurd h List.not_mem_nil

theorem mem_of {ps : List Push} {p : Push} : p ∈ (Script.of ps).pushes ↔ p ∈ ps := Iff.rfl

end Script

namespace TrainingExample

/-- A set of literals meets the demands of the example. -/
def Covers (e : TrainingExample) (M : Set Literal) : Prop :=
  (∀ l ∈ e.incl, l ∈ M) ∧ ∀ l ∈ e.excl, l ∉ M

instance (e : TrainingExample) (M : Set Literal) [DecidablePred (· ∈ M)] :
    Decidable (e.Covers M) :=
  inferInstanceAs (Decidable ((∀ l ∈ e.incl, l ∈ M) ∧ ∀ l ∈ e.excl, l ∉ M))

theorem covers_iff {r : Registry} {e : TrainingExample} {s t : LitSet} {M : Set Literal}
    (hs : r.resolve s.items = .ok e.incl) (ht : r.resolve t.items = .ok e.excl) :
    e.Covers M ↔ r.denote s ⊆ M ∧ Disjoint (r.denote t) M := by
  simp only [Covers, Registry.mem_of_resolve hs, Registry.mem_of_resolve ht,
    Set.disjoint_left]
  rfl

end TrainingExample

section Pushes

variable {registry : Registry} {univ : LitSet} {e : Example} {ctx : List Literal}

structure Accepts (registry : Registry) (univ : LitSet) (ctx : List Literal) (s : LitSet)
    (p : TrainingExample) : Prop where
  incl : registry.resolve s.items = .ok p.incl
  excl : registry.resolve (univ.diff s).items = .ok p.excl
  ctx : p.ctx = ctx

structure ExcludesLiteral (registry : Registry) (ctx : List Literal) (i : Lit)
    (n : TrainingExample) : Prop where
  incl : registry.resolve [i] = .ok n.incl
  excl : n.excl = []
  ctx : n.ctx = ctx

structure ExcludesInterval (registry : Registry) (univ : LitSet) (e : Example)
    (ctx : List Literal) (a b : LitSet) (n : TrainingExample) : Prop where
  incl : registry.resolve (a.union e.input).items = .ok n.incl
  excl : registry.resolve (univ.diff (e.input.union b)).items = .ok n.excl
  ctx : n.ctx = ctx

theorem disjoint_diff_iff {U X M : Set Literal} : Disjoint (U \ X) M ↔ U ∩ M ⊆ X := by
  rw [Set.disjoint_iff_inter_eq_empty, ← Set.inter_sdiff_right_comm, Set.sdiff_eq_empty]

theorem Accepts.covers_iff (hr : registry.WellFormed) (hu : univ.Normal) {s : LitSet}
    (hs : s.Normal) {p : TrainingExample} (h : Accepts registry univ ctx s p) {M : Set Literal} :
    p.Covers M ↔ registry.denote s ⊆ M ∧ registry.denote univ ∩ M ⊆ registry.denote s := by
  rw [TrainingExample.covers_iff h.incl h.excl, Registry.denote_diff hr hu hs, disjoint_diff_iff]

theorem ExcludesInterval.covers_iff (hr : registry.WellFormed) (hu : univ.Normal) {a b : LitSet}
    (hb : (e.input.union b).Normal) {n : TrainingExample}
    (h : ExcludesInterval registry univ e ctx a b n) {M : Set Literal} :
    n.Covers M ↔ registry.denote (a.union e.input) ⊆ M ∧
      registry.denote univ ∩ M ⊆ registry.denote (e.input.union b) := by
  rw [TrainingExample.covers_iff h.incl h.excl, Registry.denote_diff hr hu hb, disjoint_diff_iff]

theorem ExcludesLiteral.covers_iff {i : Lit} {n : TrainingExample} {l : Literal}
    (hl : registry.get? i = some l) (h : ExcludesLiteral registry ctx i n) {M : Set Literal} :
    n.Covers M ↔ l ∈ M := by
  have hincl : [l].map some = n.incl.map some := by
    rw [← Registry.resolve_eq_ok_iff.1 h.incl, List.map_singleton, List.map_singleton, hl]
  have hincl : [l] = n.incl := List.map_injective_iff.2 (Option.some_injective _) hincl
  simp [TrainingExample.Covers, ← hincl, h.excl]

/-- The ways in which an example with the context `ctx` forbids something. -/
inductive Excludes (registry : Registry) (univ : LitSet) (e : Example) (ctx : List Literal) :
    TrainingExample → Prop
  | everything : e.outputs = [] → Excludes registry univ e ctx ⟨[], [], ctx⟩
  | literal {i n} : e.outputs ≠ [] → i ∈ univ.diff e.outputLiterals →
      ExcludesLiteral registry ctx i n → Excludes registry univ e ctx n
  | interval {a b others n} : (a, others) ∈ groups e.candidates → b ∈ largest a others →
      ExcludesInterval registry univ e ctx a b n → Excludes registry univ e ctx n

theorem Excludes.ctx_eq {n : TrainingExample} (h : Excludes registry univ e ctx n) :
    n.ctx = ctx := by
  cases h with
  | everything => rfl
  | literal _ _ hn => exact hn.ctx
  | interval _ _ hn => exact hn.ctx

/-- The parts that an example with the context `ctx` hands to a builder. -/
inductive Pushes (registry : Registry) (univ : LitSet) (e : Example) (ctx : List Literal) :
    Push → Prop
  | positive {s p} : s ∈ e.outputs → Accepts registry univ ctx s p →
      Pushes registry univ e ctx (.positive p)
  | negative {n} : Excludes registry univ e ctx n → Pushes registry univ e ctx (.negative n)
  | head {l} : l ∈ registry.denote e.added → Pushes registry univ e ctx (.head l)
  | generalBody {l} : l ∈ registry.denote e.added → Pushes registry univ e ctx (.generalBody l)
  | positiveBody {l} : l ∈ ctx → Pushes registry univ e ctx (.positiveBody l)

theorem mem_acceptOutput {s : LitSet} {p : Push}
    (h : p ∈ (acceptOutput registry univ ctx s).pushes) :
    ∃ t, p = .positive t ∧ Accepts registry univ ctx s t := by
  obtain ⟨incl, hincl, h⟩ := Script.mem_resolving h
  obtain ⟨excl, hexcl, h⟩ := Script.mem_resolving h
  exact ⟨_, List.mem_singleton.1 h, hincl, hexcl, rfl⟩

theorem mem_excludeLiteral {i : Lit} {p : Push}
    (h : p ∈ (excludeLiteral registry ctx i).pushes) :
    ∃ n, p = .negative n ∧ ExcludesLiteral registry ctx i n := by
  obtain ⟨incl, hincl, h⟩ := Script.mem_resolving h
  exact ⟨_, List.mem_singleton.1 h, hincl, rfl, rfl⟩

theorem positive_mem_acceptOutput_iff {s : LitSet} {p : TrainingExample} :
    .positive p ∈ (acceptOutput registry univ ctx s).pushes ↔ Accepts registry univ ctx s p := by
  constructor
  · intro h
    obtain ⟨t, heq, ht⟩ := mem_acceptOutput h
    cases heq
    exact ht
  · intro h
    rw [acceptOutput, Script.resolving_of_ok h.incl, Script.resolving_of_ok h.excl, ← h.ctx]
    exact List.mem_singleton_self _

theorem negative_mem_excludeLiteral_iff {i : Lit} {n : TrainingExample} :
    .negative n ∈ (excludeLiteral registry ctx i).pushes ↔ ExcludesLiteral registry ctx i n := by
  constructor
  · intro h
    obtain ⟨t, heq, ht⟩ := mem_excludeLiteral h
    cases heq
    exact ht
  · intro h
    rw [excludeLiteral, Script.resolving_of_ok h.incl, ← h.excl, ← h.ctx]
    exact List.mem_singleton_self _

theorem mem_excludeSpurious {p : Push}
    (h : p ∈ (excludeSpurious registry univ e ctx).pushes) :
    ∃ a others b n, (a, others) ∈ groups e.candidates ∧ b ∈ largest a others ∧
      p = .negative n ∧ ExcludesInterval registry univ e ctx a b n := by
  obtain ⟨s, hs, h⟩ := Script.mem_concat h
  obtain ⟨⟨a, others⟩, hg, rfl⟩ := List.mem_map.1 hs
  obtain ⟨incl, hincl, h⟩ := Script.mem_resolving h
  obtain ⟨s, hs, h⟩ := Script.mem_concat h
  obtain ⟨b, hb, rfl⟩ := List.mem_map.1 hs
  obtain ⟨excl, hexcl, h⟩ := Script.mem_resolving h
  exact ⟨a, others, b, _, hg, hb, List.mem_singleton.1 h, hincl, hexcl, rfl⟩

theorem pushes_of_mem_training {p : Push}
    (h : p ∈ (trainingScript registry univ e ctx).pushes) : Pushes registry univ e ctx p := by
  unfold trainingScript at h
  split at h
  · next hout =>
    rw [List.mem_singleton.1 h]
    exact .negative (.everything (List.isEmpty_iff.1 hout))
  next hout =>
  have hout : e.outputs ≠ [] := fun h => hout (List.isEmpty_iff.2 h)
  rcases Script.mem_andThen h with h | h
  · obtain ⟨q, hq, h⟩ := Script.mem_concat h
    obtain ⟨s, hs, rfl⟩ := List.mem_map.1 hq
    obtain ⟨t, rfl, ht⟩ := mem_acceptOutput h
    exact .positive hs ht
  rcases Script.mem_andThen h with h | h
  · obtain ⟨q, hq, h⟩ := Script.mem_concat h
    obtain ⟨i, hi, rfl⟩ := List.mem_map.1 hq
    obtain ⟨n, rfl, hn⟩ := mem_excludeLiteral h
    exact .negative (.literal hout hi hn)
  · obtain ⟨a, others, b, n, hg, hb, rfl, hn⟩ := mem_excludeSpurious h
    exact .negative (.interval hg hb hn)

theorem pushes_of_mem_vocabulary {p : Push}
    (h : p ∈ (vocabularyScript registry e ctx).pushes) : Pushes registry univ e ctx p := by
  obtain ⟨added, hadded, h⟩ := Script.mem_resolving h
  rw [Script.mem_of, List.mem_append, List.mem_flatMap, List.mem_map] at h
  rcases h with ⟨l, hl, h⟩ | ⟨l, hl, rfl⟩
  · have hl := (Registry.mem_of_resolve hadded).1 hl
    rcases List.mem_cons.1 h with rfl | h
    · exact .head hl
    · rw [List.mem_singleton.1 h]
      exact .generalBody hl
  · exact .positiveBody hl

theorem pushes_of_mem {p : Push} (h : p ∈ (exampleScript registry univ e).pushes) :
    ∃ ctx, registry.resolve e.input.items = .ok ctx ∧ Pushes registry univ e ctx p := by
  obtain ⟨ctx, hctx, h⟩ := Script.mem_resolving h
  refine ⟨ctx, hctx, ?_⟩
  rcases Script.mem_andThen h with h | h
  · exact pushes_of_mem_training h
  · exact pushes_of_mem_vocabulary h

theorem excludeGroup_of_registers {g : LitSet × List LitSet} (h : registry.Registers univ)
    (ha : registry.Registers (g.1.union e.input)) :
    (excludeGroup registry univ e ctx g).fault = none ∧
      ∀ b ∈ largest g.1 g.2, ∃ n, .negative n ∈ (excludeGroup registry univ e ctx g).pushes ∧
        ExcludesInterval registry univ e ctx g.1 b n := by
  obtain ⟨incl, hincl⟩ := Registry.exists_resolve ha
  have hexcl (b : LitSet) :
      ∃ excl, registry.resolve (univ.diff (e.input.union b)).items = .ok excl :=
    Registry.exists_resolve fun i hi => h i ((SortedSet.Merge.run_diff_sublist _ _).subset hi)
  rw [excludeGroup, Script.resolving_of_ok hincl, Script.concat_of_ok]
  · refine ⟨rfl, fun b hb => ?_⟩
    obtain ⟨excl, hexcl⟩ := hexcl b
    refine ⟨⟨incl, excl, ctx⟩, List.mem_flatMap.2 ⟨_, List.mem_map_of_mem hb, ?_⟩,
      hincl, hexcl, rfl⟩
    rw [Script.resolving_of_ok hexcl]
    exact List.mem_singleton_self _
  · intro s hs
    obtain ⟨b, -, rfl⟩ := List.mem_map.1 hs
    obtain ⟨excl, hexcl⟩ := hexcl b
    rw [Script.resolving_of_ok hexcl]
    rfl

theorem excludeSpurious_of_registers (ctx : List Literal) (h : registry.Registers univ)
    (hg : ∀ g ∈ groups e.candidates, registry.Registers (g.1.union e.input))
    {g : LitSet × List LitSet} (hmem : g ∈ groups e.candidates) {b : LitSet}
    (hb : b ∈ largest g.1 g.2) :
    ∃ n, .negative n ∈ (excludeSpurious registry univ e ctx).pushes ∧
      ExcludesInterval registry univ e ctx g.1 b n := by
  obtain ⟨n, hn, hint⟩ := (excludeGroup_of_registers h (hg g hmem)).2 b hb
  refine ⟨n, ?_, hint⟩
  rw [excludeSpurious, Script.concat_of_ok]
  · exact List.mem_flatMap.2 ⟨_, List.mem_map_of_mem hmem, hn⟩
  · intro s hs
    obtain ⟨g, hg', rfl⟩ := List.mem_map.1 hs
    exact (excludeGroup_of_registers h (hg g hg')).1

end Pushes

end AnswerSetLearning
