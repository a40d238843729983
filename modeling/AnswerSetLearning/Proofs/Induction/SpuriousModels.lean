import Mathlib
import AnswerSetLearning.Proofs.Induction.TrainingExamples

namespace AnswerSetLearning

/-- The example is normal and the universe holds its input and all its outputs; every number is
registered. -/
@[mk_iff]
structure Example.FitsIn (e : Example) (registry : Registry) (univ : LitSet) : Prop
    extends e.Normal where
  wellFormed : registry.WellFormed
  registers : registry.Registers univ
  normal : univ.Normal
  input_subset : e.input ⊆ univ
  output_subset : ∀ s ∈ e.outputs, s ⊆ univ

instance (e : Example) (registry : Registry) (univ : LitSet) :
    Decidable (e.FitsIn registry univ) :=
  decidable_of_iff' _ (Example.fitsIn_iff e registry univ)

/-- A model adds to the input of the example a set of literals of the outputs that is neither
contained in what an output adds nor contains it. -/
structure Example.IsSpuriousModel (e : Example) (registry : Registry) (M : Set Literal) :
    Prop where
  nonempty : (M \ registry.denote e.input).Nonempty
  ssubset : M \ registry.denote e.input ⊂
    registry.denote e.outputLiterals \ registry.denote e.input
  not_subset : ∀ s ∈ e.outputs,
    ¬ M \ registry.denote e.input ⊆ registry.denote s \ registry.denote e.input
  not_superset : ∀ s ∈ e.outputs,
    ¬ registry.denote s \ registry.denote e.input ⊆ M \ registry.denote e.input

namespace Example

variable {e : Example}

theorem not_mem_input_of_mem_added (he : e.Normal) {i : Lit} (h : i ∈ e.added) : i ∉ e.input :=
  ((mem_added he).1 h).2

theorem mem_largest_iff (he : e.Normal) {a b : LitSet} {others : List LitSet}
    (hg : (a, others) ∈ groups e.candidates) :
    b ∈ largest a others ↔ b ∈ e.candidates ∧ leaderIn e.candidates b = some a ∧
      ∀ d ∈ e.candidates, leaderIn e.candidates d = some a → d.size ≤ b.size := by
  have hnormal (c) (hc : c ∈ e.candidates) := normal_of_mem_candidates he hc
  have hmem (c) := mem_group_iff (b := c) hnormal hg
  have ha := (hmem a).1 List.mem_cons_self
  rw [mem_largest (e.candidates_pairwise.sublist (group_sublist hnormal hg))]
  · simp only [hmem, and_imp, and_assoc]
  · intro c hc hsize
    obtain ⟨hc, hleader⟩ := (hmem c).1 (List.mem_cons_of_mem a hc)
    obtain ⟨-, -, -, -, hac⟩ := leaderIn_eq_some_iff.1 hleader
    have hac := (SortedSet.isSubset_iff (hnormal a ha.1) (hnormal c hc)).1 hac
    exact ((hnormal a ha.1).eq_of_subset_of_size_le (hnormal c hc) hac hsize).symm

theorem leader_of_mem_largest (he : e.Normal) {a b : LitSet} {others : List LitSet}
    (hg : (a, others) ∈ groups e.candidates) (hb : b ∈ largest a others) :
    a ∈ e.candidates ∧ b ∈ e.candidates ∧ a ⊆ b := by
  have hnormal (c) (hc : c ∈ e.candidates) := normal_of_mem_candidates he hc
  obtain ⟨hb, hleader, -⟩ := (mem_largest_iff he hg).1 hb
  have ha : a ∈ e.candidates := ((mem_group_iff hnormal hg).1 List.mem_cons_self).1
  obtain ⟨-, -, -, -, hab⟩ := leaderIn_eq_some_iff.1 hleader
  exact ⟨ha, hb, (SortedSet.isSubset_iff (hnormal a ha) (hnormal b hb)).1 hab⟩

theorem exists_leaderIn (he : e.Normal) {c : LitSet} (hc : c ∈ e.candidates) :
    ∃ a, leaderIn e.candidates c = some a := by
  have hc' := normal_of_mem_candidates he hc
  apply Option.isSome_iff_exists.1
  exact List.find?_isSome.2 ⟨c, hc, (SortedSet.isSubset_iff hc' hc').2 (SortedSet.subset_refl c)⟩

theorem leaderIn_of_between (he : e.Normal) {a b c : LitSet} (ha : a ∈ e.candidates)
    (hb : b ∈ e.candidates) (hc : c ∈ e.candidates) (hac : a ⊆ c) (hcb : c ⊆ b)
    (h : leaderIn e.candidates b = some a) : leaderIn e.candidates c = some a := by
  have hnormal (c) (hc : c ∈ e.candidates) := normal_of_mem_candidates he hc
  obtain ⟨before, after, hsplit, hlead, -⟩ := leaderIn_eq_some_iff.1 h
  have hbefore : ∀ d ∈ before, d.Normal := fun d hd => hnormal d (by simp [hsplit, hd])
  refine leaderIn_eq_some_iff.2 ⟨before, after, hsplit, ?_, ?_⟩
  · refine Bool.eq_false_iff.2 fun hled => Bool.eq_false_iff.1 hlead ?_
    obtain ⟨d, hd, hdc⟩ := (leads_iff hbefore (hnormal c hc)).1 hled
    exact (leads_iff hbefore (hnormal b hb)).2 ⟨d, hd, SortedSet.subset_trans hdc hcb⟩
  · exact (SortedSet.isSubset_iff (hnormal a ha) (hnormal c hc)).2 hac

end Example

section Exclusion

variable {registry : Registry} {univ : LitSet} {e : Example} {ctx : List Literal}

namespace Example.FitsIn

theorem added_subset (h : e.FitsIn registry univ) : e.added ⊆ univ := by
  intro i hi
  obtain ⟨⟨s, hs, hi⟩, -⟩ := (mem_added h.toNormal).1 hi
  exact h.output_subset s hs hi

theorem union_subset (h : e.FitsIn registry univ) {c : LitSet} (hc : c ⊆ univ) :
    e.input.union c ⊆ univ := by
  intro i hi
  cases SortedSet.mem_union.1 hi with
  | inl hi => exact h.input_subset hi
  | inr hi => exact hc hi

theorem registers_union (h : e.FitsIn registry univ) {c : LitSet} (hc : c ⊆ univ) :
    registry.Registers (e.input.union c) := h.registers.subset (h.union_subset hc)

theorem registers_leader (h : e.FitsIn registry univ) (g : LitSet × List LitSet)
    (hg : g ∈ groups e.candidates) : registry.Registers (g.1.union e.input) := by
  have hnormal (c) (hc : c ∈ e.candidates) := normal_of_mem_candidates h.toNormal hc
  have ha : g.1 ∈ e.candidates := ((mem_group_iff hnormal hg).1 List.mem_cons_self).1
  apply h.registers.subset
  intro i hi
  cases SortedSet.mem_union.1 hi with
  | inl hi => exact h.added_subset ((isSpurious_of_mem_candidates h.toNormal ha).added hi)
  | inr hi => exact h.input_subset hi

theorem interval_covers_iff (h : e.FitsIn registry univ) {a b c : LitSet}
    (ha : e.IsSpurious a) (hb : e.IsSpurious b) (hc : e.IsSpurious c) {n : TrainingExample}
    (hn : ExcludesInterval registry univ e ctx a b n) :
    n.Covers (registry.denote (e.input.union c)) ↔ a ⊆ c ∧ c ⊆ b := by
  have hcu := SortedSet.subset_trans hc.added h.added_subset
  have hau := SortedSet.subset_trans ha.added h.added_subset
  rw [hn.covers_iff h.wellFormed h.normal (h.input.union hb.normal),
    Set.inter_eq_self_of_subset_right (Registry.denote_mono (h.union_subset hcu)),
    Registry.denote_subset_iff h.wellFormed, Registry.denote_subset_iff h.wellFormed
      (h.registers_union hcu)]
  · have hfree {d : LitSet} (hd : e.IsSpurious d) (i : Lit) (hi : i ∈ d) : i ∉ e.input :=
      not_mem_input_of_mem_added h.toNormal (hd.added hi)
    simp only [SortedSet.subset_def, SortedSet.mem_union]
    constructor
    · rintro ⟨hac, hcb⟩
      exact ⟨fun i hi => (hac (.inl hi)).resolve_left (hfree ha i hi),
        fun i hi => (hcb (.inr hi)).resolve_left (hfree hc i hi)⟩
    · rintro ⟨hac, hcb⟩
      exact ⟨fun i hi => hi.elim (fun hi => .inr (hac hi)) .inl, fun i hi => hi.imp_right (hcb ·)⟩
  · intro i hi
    exact h.registers i ((SortedSet.mem_union.1 hi).elim (hau ·) (h.input_subset ·))

theorem denote_input_diff (h : e.FitsIn registry univ) {s : LitSet} (hs : s.Normal) :
    registry.denote (s.diff e.input) = registry.denote s \ registry.denote e.input :=
  Registry.denote_diff h.wellFormed hs h.input

theorem registers_spurious (h : e.FitsIn registry univ) {c : LitSet} (hc : e.IsSpurious c) :
    registry.Registers c := h.registers.subset (SortedSet.subset_trans hc.added h.added_subset)

theorem disjoint_input (h : e.FitsIn registry univ) {c : LitSet} (hc : e.IsSpurious c) :
    Disjoint (registry.denote c) (registry.denote e.input) := by
  rw [Set.disjoint_left]
  rintro l ⟨i, hi, hl⟩ hin
  have hin := (Registry.mem_denote_iff h.wellFormed hl).1 hin
  exact not_mem_input_of_mem_added h.toNormal (hc.added hi) hin

theorem between_of_covers (h : e.FitsIn registry univ) {a b : LitSet} (ha : e.IsSpurious a)
    (hb : e.IsSpurious b) {n : TrainingExample}
    (hn : ExcludesInterval registry univ e ctx a b n) {M : Set Literal}
    (hM : M ⊆ registry.denote univ) (hcov : n.Covers M) :
    registry.denote a ⊆ M \ registry.denote e.input ∧
      M \ registry.denote e.input ⊆ registry.denote b := by
  rw [hn.covers_iff h.wellFormed h.normal (h.input.union hb.normal),
    Set.inter_eq_self_of_subset_right hM, Registry.denote_union, Registry.denote_union] at hcov
  constructor
  · exact Set.subset_sdiff.2 ⟨Set.subset_union_left.trans hcov.1, h.disjoint_input ha⟩
  · exact Set.sdiff_subset_iff.2 hcov.2

end Example.FitsIn

/-- A spurious set is left out unless it lies below a largest set with its leader. -/
theorem excludeSpurious_covers_iff (h : e.FitsIn registry univ) (hout : e.outputs ≠ [])
    {c : LitSet} (hc : e.IsSpurious c) :
    (∃ n, .negative n ∈ (excludeSpurious registry univ e ctx).pushes ∧
        n.Covers (registry.denote (e.input.union c))) ↔
      ∃ b ∈ e.candidates, c ⊆ b ∧ leaderIn e.candidates b = leaderIn e.candidates c ∧
        ∀ d ∈ e.candidates, leaderIn e.candidates d = leaderIn e.candidates c →
          d.size ≤ b.size := by
  have he := h.toNormal
  have hmem := hc.mem_candidates he hout
  have hspurious {d : LitSet} (hd : d ∈ e.candidates) := Example.isSpurious_of_mem_candidates he hd
  constructor
  · rintro ⟨n, hn, hcov⟩
    obtain ⟨a, others, b, n, hg, hb, heq, hint⟩ := mem_excludeSpurious hn
    cases heq
    obtain ⟨ha, hb', -⟩ := Example.leader_of_mem_largest he hg hb
    obtain ⟨-, hleader, hmax⟩ := (Example.mem_largest_iff he hg).1 hb
    obtain ⟨hac, hcb⟩ := (h.interval_covers_iff (hspurious ha) (hspurious hb') hc hint).1 hcov
    have hsame := Example.leaderIn_of_between he ha hb' hmem hac hcb hleader
    rw [hsame]
    exact ⟨b, hb', hcb, hleader, hmax⟩
  · rintro ⟨b, hb, hcb, hsame, hmax⟩
    have hnormal (c) (hc : c ∈ e.candidates) := Example.normal_of_mem_candidates he hc
    obtain ⟨a, hleader⟩ := Example.exists_leaderIn he hmem
    rw [hleader] at hsame hmax
    obtain ⟨others, hg⟩ := exists_group hnormal hmem hleader
    -- The negative comes from the largest set, and the leader of the group lies in `c`.
    have hlargest := (Example.mem_largest_iff he hg).2 ⟨hb, hsame, hmax⟩
    obtain ⟨ha, -, -⟩ := Example.leader_of_mem_largest he hg hlargest
    have hac : a ⊆ c := by
      obtain ⟨-, -, -, -, hac⟩ := leaderIn_eq_some_iff.1 hleader
      exact (SortedSet.isSubset_iff (hnormal a ha) hc.normal).1 hac
    obtain ⟨n, hn, hint⟩ :=
      excludeSpurious_of_registers ctx h.registers h.registers_leader hg hlargest
    exact ⟨n, hn, (h.interval_covers_iff (hspurious ha) (hspurious hb) hc hint).2 ⟨hac, hcb⟩⟩

/-! Where outputs overlap, the sets of a group may differ in size without one of them holding
all others. -/

def letters : Registry := ⟨["a", "b", "c", "d", "e"].map fun name => ⟨name, []⟩⟩

def alphabet : LitSet := ⟨[1, 2, 3, 4, 5]⟩

def overlapping : Example := ⟨⟨[]⟩, [⟨[1, 2, 3]⟩, ⟨[1, 4, 5]⟩]⟩

theorem overlapping_fitsIn : overlapping.FitsIn letters alphabet := by decide

theorem added_overlapping : overlapping.added = alphabet := by cbv

theorem overlapping_excluded :
    ∃ n, .negative n ∈ (excludeSpurious letters alphabet overlapping []).pushes ∧
      n.Covers (letters.denote (overlapping.input.union ⟨[2, 3, 4, 5]⟩)) := by
  have hspurious : overlapping.IsSpurious ⟨[2, 3, 4, 5]⟩ :=
    ⟨by decide, by rw [added_overlapping]; decide, by decide, by decide⟩
  have hcandidates : overlapping.candidates =
      [[2, 4], [2, 5], [3, 4], [3, 5], [1, 2, 4], [1, 2, 5], [1, 3, 4], [1, 3, 5], [2, 3, 4],
        [2, 3, 5], [2, 4, 5], [3, 4, 5], [2, 3, 4, 5]].map SortedSet.mk := by cbv
  apply (excludeSpurious_covers_iff overlapping_fitsIn (by decide) hspurious).2
  refine ⟨⟨[2, 3, 4, 5]⟩, ?_⟩
  rw [hcandidates]
  decide

/-- The set abd is led by bd, whose only largest superset is bcde. -/
theorem overlapping_left_out :
    overlapping.FitsIn letters alphabet ∧ overlapping.IsSpurious ⟨[1, 2, 4]⟩ ∧
      ∀ n, .negative n ∈ (excludeSpurious letters alphabet overlapping []).pushes →
        ¬ n.Covers (letters.denote (overlapping.input.union ⟨[1, 2, 4]⟩)) := by
  have hpushes : (excludeSpurious letters alphabet overlapping []).pushes =
      [(["b", "d"], ["a"]), (["b", "e"], ["a", "d"]), (["b", "e"], ["c", "d"]),
        (["c", "d"], ["a", "b"]), (["c", "d"], ["b", "e"]), (["c", "e"], ["b", "d"])].map
          fun n : List String × List String =>
            .negative ⟨n.1.map (⟨·, []⟩), n.2.map (⟨·, []⟩), []⟩ := by cbv
  refine ⟨overlapping_fitsIn, ⟨by decide, ?_, by decide, by decide⟩, ?_⟩
  · rw [added_overlapping]
    decide
  · rw [hpushes]
    intro n hn
    simp only [List.mem_map, Push.negative.injEq] at hn
    obtain ⟨x, hx, rfl⟩ := hn
    revert x hx
    decide

theorem not_covers_of_accepts {ctx' : List Literal} (h : e.FitsIn registry univ) {s : LitSet}
    (hs : s ∈ e.outputs) {p n : TrainingExample} (hp : Accepts registry univ ctx' s p)
    (hn : Excludes registry univ e ctx n) {M : Set Literal} (hM : p.Covers M) : ¬ n.Covers M := by
  intro hcov
  obtain ⟨-, hle⟩ := (hp.covers_iff h.wellFormed h.normal (h.outputs s hs)).1 hM
  cases hn with
  | everything hout => simp [hout] at hs
  | @literal i n hout hi hn =>
    rw [SortedSet.mem_diff h.normal e.normal_outputLiterals] at hi
    obtain ⟨l, hl⟩ := h.registers i hi.1
    have hmem : l ∈ registry.denote s := hle ⟨⟨i, hi.1, hl⟩, (hn.covers_iff hl).1 hcov⟩
    have his : i ∈ s := (Registry.mem_denote_iff h.wellFormed hl).1 hmem
    exact hi.2 (Example.mem_outputLiterals.2 ⟨s, hs, his⟩)
  | interval hg hb hn =>
    obtain ⟨ha, hb, -⟩ := Example.leader_of_mem_largest h.toNormal hg hb
    have ha := Example.isSpurious_of_mem_candidates h.toNormal ha
    have hb := Example.isSpurious_of_mem_candidates h.toNormal hb
    obtain ⟨hle', -⟩ := (hn.covers_iff h.wellFormed h.normal (h.input.union hb.normal)).1 hcov
    rw [Registry.denote_union, Set.union_subset_iff] at hle'
    have hau := Registry.denote_mono (r := registry)
      (SortedSet.subset_trans ha.added h.added_subset)
    refine ha.not_subset s hs ((Registry.denote_subset_iff h.wellFormed
      (h.registers_spurious ha)).1 ?_)
    rw [h.denote_input_diff (h.outputs s hs), Set.subset_sdiff]
    exact ⟨(Set.subset_inter hau hle'.1).trans hle, h.disjoint_input ha⟩

theorem ExcludesInterval.not_mem_excl (h : e.FitsIn registry univ) {a b : LitSet}
    (hb : e.IsSpurious b) (hab : a ⊆ b) {n : TrainingExample}
    (hn : ExcludesInterval registry univ e ctx a b n) {l : Literal} (hl : l ∈ n.incl) :
    l ∉ n.excl := by
  have hsub : a.union e.input ⊆ e.input.union b := by
    intro i hi
    simp only [SortedSet.mem_union] at hi ⊢
    exact hi.symm.imp_right (hab ·)
  rw [Registry.mem_of_resolve hn.incl] at hl
  rw [Registry.mem_of_resolve hn.excl,
    Registry.denote_diff h.wellFormed h.normal (h.input.union hb.normal)]
  exact fun hexcl => hexcl.2 (Registry.denote_mono hsub hl)

theorem isSpuriousModel_of_covers (h : e.FitsIn registry univ) {a b : LitSet}
    (ha : e.IsSpurious a) (hb : e.IsSpurious b) (hout : e.outputs ≠ []) {n : TrainingExample}
    (hn : ExcludesInterval registry univ e ctx a b n) {M : Set Literal}
    (hM : M ⊆ registry.denote univ) (hcov : n.Covers M) : e.IsSpuriousModel registry M := by
  -- What the negative covers lies between the leader and the largest set of its group.
  obtain ⟨hle, hge⟩ := h.between_of_covers ha hb hn hM hcov
  have hnot_subset : ∀ s ∈ e.outputs,
      ¬ M \ registry.denote e.input ⊆ registry.denote s \ registry.denote e.input := by
    intro s hs hsub
    rw [← h.denote_input_diff (h.outputs s hs)] at hsub
    exact ha.not_subset s hs
      ((Registry.denote_subset_iff h.wellFormed (h.registers_spurious ha)).1 (hle.trans hsub))
  have hnot_superset : ∀ s ∈ e.outputs,
      ¬ registry.denote s \ registry.denote e.input ⊆ M \ registry.denote e.input := by
    intro s hs hsub
    rw [← h.denote_input_diff (h.outputs s hs)] at hsub
    have hreg := h.registers.subset
      (SortedSet.subset_trans (Example.diff_subset_added h.toNormal hs) h.added_subset)
    exact hb.not_superset s hs
      ((Registry.denote_subset_iff h.wellFormed hreg).1 (hsub.trans hge))
  obtain ⟨s, hs⟩ := List.exists_mem_of_ne_nil _ hout
  have hadded : registry.denote e.added =
      registry.denote e.outputLiterals \ registry.denote e.input :=
    h.denote_input_diff e.normal_outputLiterals
  refine ⟨?_, ⟨?_, ?_⟩, hnot_subset, hnot_superset⟩
  · by_contra hempty
    rw [Set.not_nonempty_iff_eq_empty] at hempty
    exact hnot_subset s hs (hempty ▸ Set.empty_subset _)
  · rw [← hadded]
    exact hge.trans (Registry.denote_mono hb.added)
  · intro hfull
    apply hnot_superset s hs
    rw [← h.denote_input_diff (h.outputs s hs)]
    rw [← hadded] at hfull
    exact (Registry.denote_mono (Example.diff_subset_added h.toNormal hs)).trans hfull

/-- The negative examples exclude only spurious models, and nothing that a positive example of
the same example asks for. -/
theorem excludes_only_spurious (h : e.FitsIn registry univ) (hout : e.outputs ≠ []) :
    (∀ ctx n, .negative n ∈ (excludeSpurious registry univ e ctx).pushes →
      (∀ l ∈ n.incl, l ∉ n.excl) ∧
      ∀ M, registry.denote e.input ⊆ M → M ⊆ registry.denote univ → n.Covers M →
        e.IsSpuriousModel registry M) ∧
    ∀ p n M, .positive p ∈ (exampleScript registry univ e).pushes →
      .negative n ∈ (exampleScript registry univ e).pushes → p.Covers M → ¬ n.Covers M := by
  constructor
  · intro ctx n hn
    obtain ⟨a, others, b, n, hg, hb, heq, hn⟩ := mem_excludeSpurious hn
    cases heq
    obtain ⟨ha, hb, hab⟩ := Example.leader_of_mem_largest h.toNormal hg hb
    have ha := Example.isSpurious_of_mem_candidates h.toNormal ha
    have hb := Example.isSpurious_of_mem_candidates h.toNormal hb
    constructor
    · exact fun l hl => hn.not_mem_excl h hb hab hl
    · exact fun M _ hM hcov => isSpuriousModel_of_covers h ha hb hout hn hM hcov
  · intro p n M hp hn hM
    obtain ⟨ctx, -, hp⟩ := pushes_of_mem hp
    obtain ⟨ctx', -, hn⟩ := pushes_of_mem hn
    cases hp with
    | positive hs hp =>
      cases hn with
      | negative hn => exact not_covers_of_accepts h hs hp hn hM

theorem overlapping_excludes_only_spurious :
    overlapping.IsSpuriousModel letters (letters.denote ⟨[2, 4]⟩) ∧
      ∀ n, .negative n ∈ (exampleScript letters alphabet overlapping).pushes →
        ¬ n.Covers (letters.denote ⟨[1, 2, 3]⟩) := by
  have hnegative : (excludeSpurious letters alphabet overlapping []).pushes.head? =
      some (.negative ⟨[⟨"b", []⟩, ⟨"d", []⟩], [⟨"a", []⟩], []⟩) := by cbv
  have hpositive : (exampleScript letters alphabet overlapping).pushes.head? =
      some (.positive ⟨[⟨"a", []⟩, ⟨"b", []⟩, ⟨"c", []⟩], [⟨"d", []⟩, ⟨"e", []⟩], []⟩) := by cbv
  obtain ⟨hspurious, haccepts⟩ := excludes_only_spurious overlapping_fitsIn (by decide)
  constructor
  · apply (hspurious [] _ (List.mem_of_head? hnegative)).2
    · exact Registry.denote_mono (by decide)
    · exact Registry.denote_mono (by decide)
    · decide
  · intro n hn
    exact haccepts _ n _ (List.mem_of_head? hpositive) hn (by decide)

end Exclusion

end AnswerSetLearning
