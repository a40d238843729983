import AnswerSetLearning.Induction.Synthesis
import AnswerSetLearning.Proofs.Induction.Subsets
import AnswerSetLearning.Proofs.Registry

universe u

namespace AnswerSetLearning

variable {α : Type u}

namespace Example

@[mk_iff]
structure Normal (e : Example) : Prop where
  input : e.input.Normal
  outputs : ∀ s ∈ e.outputs, s.Normal

/-- A set of added literals that is neither contained in what an output adds nor contains it. -/
structure IsSpurious (e : Example) (c : LitSet) : Prop where
  normal : c.Normal
  added : c ⊆ e.added
  not_subset : ∀ s ∈ e.outputs, ¬ c ⊆ s.diff e.input
  not_superset : ∀ s ∈ e.outputs, ¬ s.diff e.input ⊆ c

instance (e : Example) : Decidable e.Normal := decidable_of_iff' _ (normal_iff e)

variable {e : Example}

theorem mem_outputLiterals {i : Lit} : i ∈ e.outputLiterals ↔ ∃ s ∈ e.outputs, i ∈ s := by
  rw [outputLiterals, SortedSet.mem_ofList, List.mem_flatMap]
  rfl

theorem normal_outputLiterals (e : Example) : e.outputLiterals.Normal :=
  SortedSet.normal_ofList _

theorem normal_added (e : Example) : e.added.Normal := e.normal_outputLiterals.diff

theorem mem_added (he : e.Normal) {i : Lit} :
    i ∈ e.added ↔ (∃ s ∈ e.outputs, i ∈ s) ∧ i ∉ e.input := by
  rw [added, SortedSet.mem_diff e.normal_outputLiterals he.input, mem_outputLiterals]

theorem diff_subset_added (he : e.Normal) {s : LitSet} (hs : s ∈ e.outputs) :
    s.diff e.input ⊆ e.added := by
  intro i hi
  rw [SortedSet.mem_diff (he.outputs s hs) he.input] at hi
  exact (mem_added he).2 ⟨⟨s, hs, hi.1⟩, hi.2⟩

def proposals (e : Example) : List LitSet :=
  (List.range' 1 (e.added.items.length - 1)).flatMap fun size =>
    (subsetsOfSize size e.added.items).map SortedSet.ofList

theorem candidates_eq_filter (e : Example) : e.candidates =
    e.proposals.filter fun c => !e.targets.any fun t => t.isSubset c || t.isSuperset c := rfl

theorem mem_map_subsetsOfSize {k : Nat} {c : LitSet} :
    c ∈ (subsetsOfSize k e.added.items).map SortedSet.ofList ↔
      c.Normal ∧ c ⊆ e.added ∧ c.size = k := by
  have hadded := e.normal_added
  simp only [List.mem_map, mem_subsetsOfSize]
  constructor
  · rintro ⟨l, ⟨hsub, rfl⟩, rfl⟩
    have hl : l.Pairwise (· < ·) := hadded.sublist hsub
    rw [SortedSet.ofList_eq_mk hl]
    exact ⟨hl, hsub.subset, rfl⟩
  · rintro ⟨hc, hsub, rfl⟩
    have hperm := List.subperm_of_subset hc.nodup hsub
    exact ⟨c.items, ⟨List.sublist_of_subperm_of_pairwise hperm hc hadded, rfl⟩,
      SortedSet.ofList_eq_mk hc⟩

theorem mem_proposals {c : LitSet} :
    c ∈ e.proposals ↔ c.Normal ∧ c ⊆ e.added ∧ 1 ≤ c.size ∧ c.size < e.added.size := by
  simp only [proposals, List.mem_flatMap, mem_map_subsetsOfSize, List.mem_range'_1,
    SortedSet.size]
  constructor
  · rintro ⟨size, hsize, hc, hsub, rfl⟩
    exact ⟨hc, hsub, by omega, by omega⟩
  · rintro ⟨hc, hsub, hpos, hlt⟩
    exact ⟨c.items.length, by omega, hc, hsub, rfl⟩

theorem proposals_pairwise (e : Example) :
    e.proposals.Pairwise fun a b => a.size ≤ b.size := by
  refine List.pairwise_flatMap.2 ⟨fun k _ => ?_, ?_⟩
  · refine List.pairwise_of_forall_mem_list fun a ha b hb => ?_
    rw [(mem_map_subsetsOfSize.1 ha).2.2, (mem_map_subsetsOfSize.1 hb).2.2]
  · refine (List.pairwise_lt_range' (s := 1)).imp fun hlt a ha b hb => ?_
    rw [(mem_map_subsetsOfSize.1 ha).2.2, (mem_map_subsetsOfSize.1 hb).2.2]
    exact hlt.le

theorem candidates_pairwise (e : Example) :
    e.candidates.Pairwise fun a b => a.size ≤ b.size :=
  e.proposals_pairwise.filter _

theorem IsSpurious.mem_proposals {c : LitSet} (he : e.Normal) (hout : e.outputs ≠ [])
    (hc : e.IsSpurious c) : c ∈ e.proposals := by
  obtain ⟨s, hs⟩ := List.exists_mem_of_ne_nil _ hout
  refine Example.mem_proposals.2 ⟨hc.normal, hc.added, ?_, ?_⟩
  · by_contra hpos
    refine hc.not_subset s hs fun i hi => ?_
    have hnil : c.items = [] := List.eq_nil_of_length_eq_zero (by simpa [SortedSet.size] using hpos)
    simp [SortedSet.mem_def, hnil] at hi
  · by_contra hlt
    have heq := hc.normal.eq_of_subset_of_size_le e.normal_added hc.added (Nat.not_lt.1 hlt)
    exact hc.not_superset s hs (heq ▸ diff_subset_added he hs)

theorem keeps_iff (he : e.Normal) {c : LitSet} (hc : c.Normal) :
    (!e.targets.any fun t => t.isSubset c || t.isSuperset c) = true ↔
      ∀ s ∈ e.outputs, ¬ s.diff e.input ⊆ c ∧ ¬ c ⊆ s.diff e.input := by
  simp only [targets, List.any_map, Bool.not_eq_true', List.any_eq_false, Function.comp_apply,
    Bool.or_eq_true, not_or]
  refine forall₂_congr fun s hs => ?_
  have ht : (s.diff e.input).Normal := (he.outputs s hs).diff
  rw [SortedSet.isSubset_iff ht hc, SortedSet.isSuperset_iff ht hc]

theorem isSpurious_iff {c : LitSet} : e.IsSpurious c ↔ c.Normal ∧ c ⊆ e.added ∧
    ∀ s ∈ e.outputs, ¬ s.diff e.input ⊆ c ∧ ¬ c ⊆ s.diff e.input :=
  ⟨fun h => ⟨h.normal, h.added, fun s hs => ⟨h.not_superset s hs, h.not_subset s hs⟩⟩,
    fun h => ⟨h.1, h.2.1, fun s hs => (h.2.2 s hs).2, fun s hs => (h.2.2 s hs).1⟩⟩

theorem mem_candidates (he : e.Normal) {c : LitSet} :
    c ∈ e.candidates ↔ c ∈ e.proposals ∧ e.IsSpurious c := by
  rw [candidates_eq_filter, List.mem_filter]
  refine and_congr_right fun hp => ?_
  obtain ⟨hc, hsub, -⟩ := Example.mem_proposals.1 hp
  rw [keeps_iff he hc, isSpurious_iff, and_iff_right hc, and_iff_right hsub]

theorem IsSpurious.mem_candidates {c : LitSet} (he : e.Normal) (hout : e.outputs ≠ [])
    (hc : e.IsSpurious c) : c ∈ e.candidates :=
  (Example.mem_candidates he).2 ⟨hc.mem_proposals he hout, hc⟩

theorem isSpurious_of_mem_candidates {c : LitSet} (he : e.Normal) (hc : c ∈ e.candidates) :
    e.IsSpurious c := ((mem_candidates he).1 hc).2

theorem normal_of_mem_candidates {c : LitSet} (he : e.Normal) (hc : c ∈ e.candidates) :
    c.Normal := (isSpurious_of_mem_candidates he hc).normal

end Example

/-! ## Groups -/

def leads (leaders : List LitSet) (b : LitSet) : Bool := leaders.any (·.isSubset b)

theorem leads_iff {leaders : List LitSet} {b : LitSet} (hl : ∀ a ∈ leaders, a.Normal)
    (hb : b.Normal) : leads leaders b = true ↔ ∃ a ∈ leaders, a ⊆ b := by
  simp only [leads, List.any_eq_true]
  refine exists_congr fun a => and_congr_right fun ha => ?_
  exact SortedSet.isSubset_iff (hl a ha) hb

theorem leads_append (leaders leaders' : List LitSet) (b : LitSet) :
    leads (leaders ++ leaders') b = (leads leaders b || leads leaders' b) := List.any_append

theorem leads_append_cons {leaders : List LitSet} {a b : LitSet} (hl : ∀ c ∈ leaders, c.Normal)
    (ha : a.Normal) (hb : b.Normal) (hled : leads leaders a = true) (rest : List LitSet) :
    leads (leaders ++ a :: rest) b = leads (leaders ++ rest) b := by
  rw [leads_append, leads_append, show a :: rest = [a] ++ rest from rfl, leads_append,
    ← Bool.or_assoc]
  congr 1
  refine Bool.or_eq_left_iff_imp.2 fun hab => (leads_iff hl hb).2 ?_
  obtain ⟨c, hc, hca⟩ := (leads_iff hl ha).1 hled
  have hab : a ⊆ b := by simpa [leads, SortedSet.isSubset_iff ha hb] using hab
  exact ⟨c, hc, SortedSet.subset_trans hca hab⟩

def groupAt (before : List LitSet) (a : LitSet) (after : List LitSet) :
    LitSet × List LitSet :=
  (a, after.filter fun b => a.isSubset b && !leads before b)

theorem exists_split_cons {P : List α → α → List α → Prop} {x : α} {xs : List α} :
    (∃ before a after, x :: xs = before ++ a :: after ∧ P before a after) ↔
      P [] x xs ∨ ∃ before a after, xs = before ++ a :: after ∧ P (x :: before) a after := by
  constructor
  · rintro ⟨_ | ⟨y, before⟩, a, after, heq, h⟩
    · obtain ⟨rfl, rfl⟩ := List.cons.inj heq
      exact .inl h
    · obtain ⟨rfl, rfl⟩ := List.cons.inj heq
      exact .inr ⟨before, a, after, rfl, h⟩
  · rintro (h | ⟨before, a, after, rfl, h⟩)
    · exact ⟨[], x, xs, rfl, h⟩
    · exact ⟨x :: before, a, after, rfl, h⟩

theorem mem_groupsFrom {leaders cs : List LitSet} (hl : ∀ c ∈ leaders, c.Normal)
    (hcs : ∀ c ∈ cs, c.Normal) {g : LitSet × List LitSet} :
    g ∈ groupsFrom leaders cs ↔ ∃ before a after, cs = before ++ a :: after ∧
      leads (leaders ++ before) a = false ∧ g = groupAt (leaders ++ before) a after := by
  induction cs generalizing leaders with
  | nil => simp [groupsFrom]
  | cons x cs ih =>
    have hx : x.Normal := hcs x List.mem_cons_self
    have hcs : ∀ c ∈ cs, c.Normal := fun c hc => hcs c (List.mem_cons_of_mem x hc)
    rw [exists_split_cons, List.append_nil, groupsFrom]
    split
    · next hled =>
      have hled : leads leaders x = true := hled
      have hskip (b) (hb : b ∈ cs) := leads_append_cons hl hx (hcs b hb) hled
      rw [ih hl hcs, hled]
      simp only [Bool.true_eq_false, false_and, false_or]
      refine exists_congr fun before => exists_congr fun a => exists_congr fun after =>
        and_congr_right fun hsplit => ?_
      have hgroup : groupAt (leaders ++ x :: before) a after =
          groupAt (leaders ++ before) a after :=
        congrArg _ (List.filter_congr fun b hb => by rw [hskip b (by simp [hsplit, hb])])
      rw [hskip a (by simp [hsplit]), hgroup]
    · next hlead =>
      have hlead : leads leaders x = false := by simpa [leads] using hlead
      have hl' : ∀ c ∈ leaders ++ [x], c.Normal := by
        simpa [or_imp, forall_and] using ⟨hl, hx⟩
      rw [List.mem_cons, ih hl' hcs]
      simp only [hlead, true_and, List.append_assoc, List.singleton_append]
      rfl

/-- The leader of a set: the first of the sets that it contains. -/
def leaderIn (cs : List LitSet) (b : LitSet) : Option LitSet := cs.find? (·.isSubset b)

theorem leaderIn_eq_some_iff {cs : List LitSet} {a b : LitSet} :
    leaderIn cs b = some a ↔ ∃ before after, cs = before ++ a :: after ∧
      leads before b = false ∧ a.isSubset b = true := by
  simp only [leaderIn, leads, List.find?_eq_some_iff_append, List.any_eq_false]
  grind

theorem mem_groups {cs : List LitSet} (hcs : ∀ c ∈ cs, c.Normal) {g : LitSet × List LitSet} :
    g ∈ groups cs ↔ ∃ before a after, cs = before ++ a :: after ∧
      leads before a = false ∧ g = groupAt before a after := by
  have hnone : ∀ c ∈ ([] : List LitSet), c.Normal := fun _ hc => absurd hc List.not_mem_nil
  simpa [groups] using mem_groupsFrom hnone hcs

theorem mem_group_iff {cs : List LitSet} (hcs : ∀ c ∈ cs, c.Normal) {a b : LitSet}
    {others : List LitSet} (hg : (a, others) ∈ groups cs) :
    b ∈ a :: others ↔ b ∈ cs ∧ leaderIn cs b = some a := by
  obtain ⟨before, a, after, rfl, hlead, heq⟩ := (mem_groups hcs).1 hg
  obtain ⟨rfl, rfl⟩ := Prod.mk.inj heq
  have ha := hcs a (by simp)
  have hrefl {c : LitSet} (hc : c.Normal) : c.isSubset c = true :=
    (SortedSet.isSubset_iff hc hc).2 (SortedSet.subset_refl c)
  have hbefore : a ∉ before := fun h =>
    Bool.eq_false_iff.1 hlead (List.any_eq_true.2 ⟨a, h, hrefl ha⟩)
  simp only [List.mem_cons, List.mem_filter, Bool.and_eq_true, Bool.not_eq_true']
  constructor
  · intro hb
    have hled : leads before b = false ∧ a.isSubset b = true := by
      rcases hb with rfl | hb
      · exact ⟨hlead, hrefl ha⟩
      · exact hb.2.symm
    refine ⟨by grind, leaderIn_eq_some_iff.2 ⟨before, after, rfl, hled⟩⟩
  · rintro ⟨hb, hleader⟩
    have hnot : before.find? (·.isSubset b) = none := by
      rw [leaderIn, List.find?_append] at hleader
      cases hfind : before.find? (·.isSubset b) with
      | none => rfl
      | some c =>
        rw [hfind] at hleader
        exact absurd (Option.some.inj hleader ▸ List.mem_of_find?_eq_some hfind) hbefore
    have hab := List.find?_some hleader
    rw [List.find?_eq_none] at hnot
    rcases List.mem_append.1 hb with hb | hb
    · exact absurd (hrefl (hcs b (by simp [hb]))) (hnot b hb)
    · exact (List.mem_cons.1 hb).imp_right fun hb =>
        ⟨hb, hab, List.any_eq_false.2 hnot⟩

theorem exists_group {cs : List LitSet} (hcs : ∀ c ∈ cs, c.Normal) {a b : LitSet} (hb : b ∈ cs)
    (hab : leaderIn cs b = some a) : ∃ others, (a, others) ∈ groups cs := by
  obtain ⟨before, after, rfl, hlead, hab⟩ := leaderIn_eq_some_iff.1 hab
  have ha := hcs a (by simp)
  have hbefore : ∀ c ∈ before, c.Normal := fun c hc => hcs c (by simp [hc])
  refine ⟨_, (mem_groups hcs).2 ⟨before, a, after, rfl, Bool.eq_false_iff.2 fun h => ?_, rfl⟩⟩
  obtain ⟨c, hc, hca⟩ := (leads_iff hbefore ha).1 h
  have hcb := SortedSet.subset_trans hca ((SortedSet.isSubset_iff ha (hcs b hb)).1 hab)
  exact Bool.eq_false_iff.1 hlead ((leads_iff hbefore (hcs b hb)).2 ⟨c, hc, hcb⟩)

theorem group_sublist {cs : List LitSet} (hcs : ∀ c ∈ cs, c.Normal) {g : LitSet × List LitSet}
    (hg : g ∈ groups cs) : (g.1 :: g.2).Sublist cs := by
  obtain ⟨before, a, after, rfl, -, rfl⟩ := (mem_groups hcs).1 hg
  exact (List.filter_sublist.cons_cons a).trans (List.sublist_append_right before _)

theorem takeWhile_eq_filter {p : α → Bool} {l : List α} (hl : l.Pairwise fun a b => p b → p a) :
    l.takeWhile p = l.filter p := by
  induction l with
  | nil => rfl
  | cons a l ih =>
    by_cases ha : p a
    · rw [List.takeWhile_cons_of_pos ha, List.filter_cons_of_pos ha, ih hl.of_cons]
    · have hnone (b) (hb : b ∈ l) : ¬ p b := mt (List.rel_of_pairwise_cons hl hb) ha
      rw [List.takeWhile_cons_of_neg ha, List.filter_cons_of_neg ha, List.filter_eq_nil_iff.2 hnone]

theorem largest_eq_filter {a : LitSet} {others : List LitSet}
    (hsize : others.Pairwise fun c d => c.size ≤ d.size) :
    largest a others = if others = [] then [a]
      else others.reverse.filter fun b => ∀ c ∈ others, c.size ≤ b.size := by
  rw [largest]
  cases hrev : others.reverse with
  | nil => rw [if_pos (List.reverse_eq_nil_iff.1 hrev)]
  | cons top rest =>
    have hne : others ≠ [] := fun h => by simp [h] at hrev
    have hdesc : (top :: rest).Pairwise fun c d => d.size ≤ c.size := by
      rwa [← hrev, List.pairwise_reverse]
    have hmax (b : LitSet) : (∀ c ∈ others, c.size ≤ b.size) ↔ top.size ≤ b.size := by
      have hmem (c) : c ∈ others ↔ c ∈ top :: rest := by rw [← hrev, List.mem_reverse]
      simp only [hmem, List.forall_mem_cons, and_iff_left_iff_imp]
      exact fun htop c hc => (List.rel_of_pairwise_cons hdesc hc).trans htop
    have hfront : rest.Pairwise fun c d =>
        decide (top.size ≤ d.size) = true → decide (top.size ≤ c.size) = true :=
      hdesc.of_cons.imp fun h => by simpa using h.trans'
    rw [if_neg hne]
    simp only [hmax]
    rw [List.filter_cons_of_pos (by simp), takeWhile_eq_filter hfront]

theorem mem_largest {a b : LitSet} {others : List LitSet}
    (hsize : (a :: others).Pairwise fun c d => c.size ≤ d.size)
    (ha : ∀ c ∈ others, c.size ≤ a.size → c = a) :
    b ∈ largest a others ↔ b ∈ a :: others ∧ ∀ c ∈ a :: others, c.size ≤ b.size := by
  rw [largest_eq_filter hsize.of_cons]
  split
  · next hnil =>
    subst hnil
    simp +contextual
  · next hne =>
    rw [List.mem_filter, List.mem_reverse, decide_eq_true_iff, List.forall_mem_cons]
    constructor
    · rintro ⟨hb, hall⟩
      exact ⟨List.mem_cons_of_mem a hb, List.rel_of_pairwise_cons hsize hb, hall⟩
    · rintro ⟨hb, -, hall⟩
      refine ⟨(List.mem_cons.1 hb).elim (fun heq => ?_) id, hall⟩
      obtain ⟨c, hc⟩ := List.exists_mem_of_ne_nil _ hne
      exact heq ▸ ha c hc (heq ▸ hall c hc) ▸ hc

end AnswerSetLearning
