import AnswerSetLearning.Proofs.Induction.Resolution
import AnswerSetLearning.Proofs.Induction.SpuriousSets

namespace AnswerSetLearning

/-- The groups that are set aside while the first set that is left takes all sets that contain
it. -/
inductive LeaderWalk : List LitSet → List (LitSet × List LitSet) → Prop
  | done : LeaderWalk [] []
  | next {a rest gs} : LeaderWalk (rest.filter fun b => !a.isSubset b) gs →
      LeaderWalk (a :: rest) ((a, rest.filter fun b => a.isSubset b) :: gs)

def IsMinimalIn (cs : List LitSet) (a : LitSet) : Prop := ∀ c ∈ cs, c ⊆ a → c = a

instance (cs : List LitSet) (a : LitSet) : Decidable (IsMinimalIn cs a) :=
  inferInstanceAs (Decidable (∀ c ∈ cs, c ⊆ a → c = a))

theorem groupsFrom_append (leaders leaders' cs : List LitSet) :
    groupsFrom (leaders ++ leaders') cs =
      groupsFrom leaders' (cs.filter fun b => !leads leaders b) := by
  -- `leaders'` is free in the induction, as a set that leads is put behind them.
  induction cs generalizing leaders' with
  | nil => rfl
  | cons a cs ih =>
    have hled : (leaders ++ leaders').any (·.isSubset a) = (leads leaders a || leads leaders' a) :=
      leads_append leaders leaders' a
    have hany (ls : List LitSet) (b : LitSet) : ls.any (·.isSubset b) = leads ls b := rfl
    rw [groupsFrom, hled]
    cases hl : leads leaders a with
    | true => rw [Bool.true_or, if_pos rfl, ih, List.filter_cons_of_neg (by simp [hl])]
    | false =>
      rw [List.filter_cons_of_pos (by simp [hl]), groupsFrom, hany, Bool.false_or,
        List.filter_filter]
      simp only [hany, leads_append, List.append_assoc, ih]
      split
      · rfl
      · congr 3
        funext b
        cases a.isSubset b <;> cases leads leaders b <;> cases leads leaders' b <;> rfl

theorem groups_cons (a : LitSet) (rest : List LitSet) :
    groups (a :: rest) =
      (a, rest.filter fun b => a.isSubset b) :: groups (rest.filter fun b => !a.isSubset b) := by
  have hrest := groupsFrom_append [a] [] rest
  simpa [groups, groupsFrom, leads] using hrest

theorem leaderWalk_groups (cs : List LitSet) : LeaderWalk cs (groups cs) := by
  induction hlen : cs.length using Nat.strong_induction_on generalizing cs with
  | _ n ih =>
    cases cs with
    | nil => exact .done
    | cons a rest =>
      rw [groups_cons]
      have hshorter : rest.length < n := hlen ▸ Nat.lt_succ_self _
      exact .next (ih _ (Nat.lt_of_le_of_lt (List.length_filter_le _ _) hshorter) _ rfl)

namespace LeaderWalk

variable {cs : List LitSet} {gs : List (LitSet × List LitSet)}

theorem perm (h : LeaderWalk cs gs) : (gs.flatMap fun g => g.1 :: g.2).Perm cs := by
  induction h with
  | done => exact .nil
  | @next a rest gs _ ih =>
    have hsplit := List.filter_append_perm (fun b => a.isSubset b) rest
    rw [List.flatMap_cons, List.cons_append]
    exact ((ih.append_left _).trans hsplit).cons a

theorem leaders (h : LeaderWalk cs gs) (hnormal : ∀ c ∈ cs, c.Normal)
    (hsize : cs.Pairwise fun a b => a.size ≤ b.size) (hnodup : cs.Nodup) :
    gs.map Prod.fst = cs.filter fun a => IsMinimalIn cs a := by
  induction h with
  | done => rfl
  | @next a rest gs _ ih =>
    obtain ⟨ha, hrest⟩ := List.forall_mem_cons.1 hnormal
    obtain ⟨hle, hsize⟩ := List.pairwise_cons.1 hsize
    obtain ⟨hne, hnodup⟩ := List.nodup_cons.1 hnodup
    have hfirst : IsMinimalIn (a :: rest) a := by
      intro c hc hca
      rcases List.mem_cons.1 hc with rfl | hc
      · rfl
      · exact (hrest c hc).eq_of_subset_of_size_le ha hca (hle c hc)
    have hminimal (b) (hb : b ∈ rest) : IsMinimalIn (a :: rest) b ↔
        ¬ a ⊆ b ∧ IsMinimalIn (rest.filter fun b => !a.isSubset b) b := by
      constructor
      · intro h
        have hab : ¬ a ⊆ b := fun hab => hne (h a List.mem_cons_self hab ▸ hb)
        exact ⟨hab, fun c hc => h c (List.mem_cons_of_mem a (List.mem_of_mem_filter hc))⟩
      · rintro ⟨hab, h⟩ c hc hcb
        rcases List.mem_cons.1 hc with rfl | hc
        · exact absurd hcb hab
        · refine h c (List.mem_filter.2 ⟨hc, ?_⟩) hcb
          rw [Bool.not_eq_true', ← Bool.not_eq_true, SortedSet.isSubset_iff ha (hrest c hc)]
          exact fun hac => hab (SortedSet.subset_trans hac hcb)
    rw [List.map_cons, List.filter_cons_of_pos (by simpa using hfirst),
      ih (fun c hc => hrest c (List.mem_of_mem_filter hc)) (hsize.filter _) (hnodup.filter _),
      List.filter_filter]
    refine congrArg _ (List.filter_congr fun b hb => ?_)
    rw [Bool.eq_iff_iff, Bool.and_eq_true, decide_eq_true_iff, decide_eq_true_iff, hminimal b hb,
      Bool.not_eq_true', ← Bool.not_eq_true, SortedSet.isSubset_iff ha (hrest b hb), and_comm]

end LeaderWalk

/-- The sets of a list up to the first that is smaller than the one before it. -/
def beforeDrop (size : Nat) : List LitSet → List LitSet
  | [] => []
  | b :: bs => if b.size < size then [] else b :: beforeDrop b.size bs

theorem beforeDrop_eq_takeWhile {top : Nat} {bs : List LitSet} (htop : ∀ b ∈ bs, b.size ≤ top) :
    beforeDrop top bs = bs.takeWhile fun b => top ≤ b.size := by
  induction bs with
  | nil => rfl
  | cons b bs ih =>
    obtain ⟨hb, hbs⟩ := List.forall_mem_cons.1 htop
    rw [beforeDrop]
    split
    · next hlt => rw [List.takeWhile_cons_of_neg (by simpa using hlt)]
    · next hge =>
      have heq : b.size = top := le_antisymm hb (Nat.not_lt.1 hge)
      rw [List.takeWhile_cons_of_pos (by simp [heq]), heq, ih hbs]

theorem beforeDrop_eq_largest {a : LitSet} {others : List LitSet}
    (hsize : others.Pairwise fun c d => c.size ≤ d.size) :
    beforeDrop 0 (if others = [] then [a] else others.reverse) = largest a others := by
  rw [largest]
  cases hrev : others.reverse with
  | nil => rw [if_pos (List.reverse_eq_nil_iff.1 hrev)]; rfl
  | cons top rest =>
    have hne : others ≠ [] := fun h => by simp [h] at hrev
    have hdesc : (top :: rest).Pairwise fun c d => d.size ≤ c.size := by
      rwa [← hrev, List.pairwise_reverse]
    rw [if_neg hne, beforeDrop, if_neg (Nat.not_lt_zero _),
      beforeDrop_eq_takeWhile fun b => List.rel_of_pairwise_cons hdesc]

theorem Script.concat_negatives {ι κ : Type} {R : κ → TrainingExample → Prop} {l : List ι}
    {f : ι → Script} {g : ι → List κ}
    (h : ∀ i ∈ l, ∃ ns, f i = .of (ns.map .negative) ∧ List.Forall₂ R (g i) ns) :
    ∃ ns, concat (l.map f) = .of (ns.map .negative) ∧ List.Forall₂ R (l.flatMap g) ns := by
  induction l with
  | nil => exact ⟨[], rfl, .nil⟩
  | cons i l ih =>
    obtain ⟨⟨ns, hf, hns⟩, hrest⟩ := List.forall_mem_cons.1 h
    obtain ⟨ms, hconcat, hms⟩ := ih hrest
    refine ⟨ns ++ ms, ?_, List.rel_append hns hms⟩
    rw [List.map_cons, concat, hconcat, hf, andThen_of_ok rfl, List.map_append]
    rfl

section Exclusion

variable {registry : Registry} {univ : LitSet} {e : Example}

/-- The intervals that are excluded, from the leader of a group to each of its largest sets. -/
def intervals (gs : List (LitSet × List LitSet)) : List (LitSet × LitSet) :=
  gs.flatMap fun g => (largest g.1 g.2).map (g.1, ·)

theorem excludeGroup_negatives (hu : registry.Registers univ) (ctx : List Literal)
    {g : LitSet × List LitSet} (hg : registry.Registers (g.1.union e.input)) :
    ∃ ns, excludeGroup registry univ e ctx g = .of (ns.map .negative) ∧
      List.Forall₂ (fun p n => ExcludesInterval registry univ e ctx p.1 p.2 n)
        ((largest g.1 g.2).map (g.1, ·)) ns := by
  obtain ⟨incl, hincl⟩ := Registry.exists_resolve hg
  have hpairs : (largest g.1 g.2).map (g.1, ·) = (largest g.1 g.2).flatMap fun b => [(g.1, b)] :=
    List.map_eq_flatMap
  rw [excludeGroup, Script.resolving_of_ok hincl, hpairs]
  refine Script.concat_negatives fun b _ => ?_
  obtain ⟨excl, hexcl⟩ := Registry.exists_resolve (hu.diff (e.input.union b))
  rw [Script.resolving_of_ok hexcl]
  exact ⟨[⟨incl, excl, ctx⟩], rfl, .cons ⟨hincl, hexcl, rfl⟩ .nil⟩

theorem excludeSpurious_negatives (hu : registry.Registers univ) (he : e.RegisteredIn registry)
    (ctx : List Literal) :
    ∃ ns, excludeSpurious registry univ e ctx = .of (ns.map .negative) ∧
      List.Forall₂ (fun p n => ExcludesInterval registry univ e ctx p.1 p.2 n)
        (intervals (groups e.candidates)) ns :=
  Script.concat_negatives fun _ hg => excludeGroup_negatives hu ctx (he.leader hg)

/-- The walk along the candidates of an example ends with groups that hold every candidate once.
Their leaders are the minimal candidates in order; excluded are, group by group, the intervals from
the leader to the largest sets besides it, the last first, or to itself when it is alone. -/
theorem excludeSpurious_walk (hu : registry.Registers univ) (he : e.RegisteredIn registry) :
    LeaderWalk e.candidates (groups e.candidates) ∧
      (groups e.candidates).map Prod.fst = e.candidates.filter (IsMinimalIn e.candidates ·) ∧
      ((groups e.candidates).map Prod.fst).Nodup ∧
      ((groups e.candidates).flatMap fun g => g.1 :: g.2).Perm e.candidates ∧
      (∀ g ∈ groups e.candidates, (g.1 :: g.2).Sublist e.candidates ∧
        (largest g.1 g.2 = if g.2 = [] then [g.1]
          else g.2.reverse.filter fun b => ∀ c ∈ g.2, c.size ≤ b.size) ∧
        largest g.1 g.2 = beforeDrop 0 (if g.2 = [] then [g.1] else g.2.reverse)) ∧
      ∃ ctx ns, registry.resolve e.input.items = .ok ctx ∧
        excludeSpurious registry univ e ctx = .of (ns.map .negative) ∧
        List.Forall₂ (fun p n => ExcludesInterval registry univ e ctx p.1 p.2 n)
          (intervals (groups e.candidates)) ns := by
  have hwalk := leaderWalk_groups e.candidates
  have hnormal (c) (hc : c ∈ e.candidates) := Example.normal_of_mem_candidates he.toNormal hc
  have hnodup := Example.nodup_candidates he.toNormal
  have hleaders := hwalk.leaders hnormal e.candidates_pairwise hnodup
  obtain ⟨ctx, hctx⟩ := Registry.exists_resolve he.registers_input
  obtain ⟨ns, hpushes, hns⟩ := excludeSpurious_negatives hu he ctx
  refine ⟨hwalk, hleaders, hleaders ▸ hnodup.filter _, hwalk.perm, fun g hg => ?_,
    ctx, ns, hctx, hpushes, hns⟩
  have hsublist := group_sublist hnormal hg
  have hsize := (e.candidates_pairwise.sublist hsublist).of_cons
  exact ⟨hsublist, largest_eq_filter hsize, (beforeDrop_eq_largest hsize).symm⟩

theorem overlapping_walk :
    overlapping.candidates.filter (IsMinimalIn overlapping.candidates ·) =
        [⟨[2, 4]⟩, ⟨[2, 5]⟩, ⟨[3, 4]⟩, ⟨[3, 5]⟩] ∧
      ∃ ns, excludeSpurious letters alphabet overlapping [] = .of (ns.map .negative) ∧
        List.Forall₂ (fun p n => ExcludesInterval letters alphabet overlapping [] p.1 p.2 n)
          [(⟨[2, 4]⟩, ⟨[2, 3, 4, 5]⟩), (⟨[2, 5]⟩, ⟨[2, 3, 5]⟩), (⟨[2, 5]⟩, ⟨[1, 2, 5]⟩),
            (⟨[3, 4]⟩, ⟨[3, 4, 5]⟩), (⟨[3, 4]⟩, ⟨[1, 3, 4]⟩), (⟨[3, 5]⟩, ⟨[1, 3, 5]⟩)] ns := by
  have huniv : letters.Registers alphabet := by decide
  have hregistered : overlapping.RegisteredIn letters := ⟨by decide, by decide, by decide⟩
  have hleaders : (groups overlapping.candidates).map Prod.fst =
      [⟨[2, 4]⟩, ⟨[2, 5]⟩, ⟨[3, 4]⟩, ⟨[3, 5]⟩] := by cbv
  have hintervals : intervals (groups overlapping.candidates) =
      [(⟨[2, 4]⟩, ⟨[2, 3, 4, 5]⟩), (⟨[2, 5]⟩, ⟨[2, 3, 5]⟩), (⟨[2, 5]⟩, ⟨[1, 2, 5]⟩),
        (⟨[3, 4]⟩, ⟨[3, 4, 5]⟩), (⟨[3, 4]⟩, ⟨[1, 3, 4]⟩), (⟨[3, 5]⟩, ⟨[1, 3, 5]⟩)] := by cbv
  obtain ⟨-, hminimal, -, -, -, ctx, ns, hctx, hpushes, hns⟩ :=
    excludeSpurious_walk huniv hregistered
  cases hctx
  exact ⟨hminimal ▸ hleaders, ns, hpushes, hintervals ▸ hns⟩

end Exclusion

end AnswerSetLearning
