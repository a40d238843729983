import AnswerSetLearning.Proofs.Solver.Semantics
import AnswerSetLearning.Solver.Grounding

namespace AnswerSetLearning.Solver

namespace Grounding

variable {g g' : Grounding} {a b : GroundAtom} {i : Instance} {settled : Bool}

theorem mem_addFact : b ∈ (g.addFact a).facts ↔ b ∈ g.facts ∨ b = a := by
  unfold addFact
  split_ifs <;> grind

theorem possible_addFact (g : Grounding) (a : GroundAtom) :
    (g.addFact a).possible = (g.addPossible a).possible := rfl

theorem mem_addPossible : b ∈ (g.addPossible a).possible ↔ b ∈ g.possible ∨ b = a := by
  unfold addPossible
  split_ifs <;> grind

theorem prefix_addPossible (g : Grounding) (a : GroundAtom) :
    g.possible <+: (g.addPossible a).possible := by
  unfold addPossible
  split_ifs
  · exact List.prefix_refl _
  · exact List.prefix_append _ _

theorem nodup_addPossible (h : g.possible.Nodup) : (g.addPossible a).possible.Nodup := by
  unfold addPossible
  split_ifs <;> grind

theorem mem_foldl_addFact {as : List GroundAtom} {g : Grounding} :
    a ∈ (as.foldl addFact g).facts ↔ a ∈ g.facts ∨ a ∈ as := by
  induction as generalizing g with
  | nil => simp
  | cons b as ih => rw [List.foldl_cons, ih, mem_addFact, List.mem_cons, or_assoc]

theorem mem_possible_foldl_addFact {as : List GroundAtom} {g : Grounding} {a : GroundAtom} :
    a ∈ (as.foldl addFact g).possible ↔ a ∈ g.possible ∨ a ∈ as := by
  induction as generalizing g with
  | nil => simp
  | cons b as ih =>
    rw [List.foldl_cons, ih, possible_addFact, mem_addPossible, List.mem_cons, or_assoc]

theorem nodup_foldl_addFact {as : List GroundAtom} {g : Grounding} (h : g.possible.Nodup) :
    (as.foldl addFact g).possible.Nodup :=
  List.foldlRecOn (motive := fun g : Grounding => g.possible.Nodup) as _ h
    fun _ hg a _ => possible_addFact _ a ▸ nodup_addPossible hg

theorem mem_possible_fire : a ∈ (fire settled g i).possible ↔
    a ∈ g.possible ∨ i.head = some a ∧ i.unblocked g.facts = true := by
  unfold fire
  split
  · next hnone => simp [hnone]
  · next b hb =>
    rw [hb, Option.some.injEq, @eq_comm _ b]
    split_ifs with hblocked hfact
    · simp_all
    · rw [possible_addFact, mem_addPossible]
      simp_all
    · rw [mem_addPossible]
      simp_all

theorem mem_facts_fire : a ∈ (fire settled g i).facts ↔
    a ∈ g.facts ∨ i.head = some a ∧ i.unblocked g.facts = true ∧ settled = true ∧
      i.unblocked g.possible = true ∧ i.supported g.facts = true := by
  unfold fire
  split
  · next hnone => simp [hnone]
  · next b hb =>
    rw [hb, Option.some.injEq, @eq_comm _ b]
    split_ifs with hblocked hfact
    · simp_all
    · rw [mem_addFact]
      simp_all
    · simp_all [addPossible]

theorem mem_fire (h : a ∈ g.facts) : a ∈ (fire settled g i).facts := mem_facts_fire.2 (.inl h)

theorem prefix_fire (settled : Bool) (g : Grounding) (i : Instance) :
    g.possible <+: (fire settled g i).possible := by
  unfold fire
  split
  · exact List.prefix_refl _
  · split_ifs
    · exact List.prefix_refl _
    · exact prefix_addPossible g _
    · exact prefix_addPossible g _

theorem nodup_fire (h : g.possible.Nodup) : (fire settled g i).possible.Nodup := by
  unfold fire
  split
  · exact h
  · split_ifs
    · exact h
    · exact nodup_addPossible h
    · exact nodup_addPossible h

/-- `g'` comes from `g` by looking at instances as `T` allows them, each when its positive atoms
are possible. -/
inductive Fires (T : Bool → Instance → Prop) (g : Grounding) : Grounding → Prop
  | refl : Fires T g g
  | fire {g' : Grounding} {settled : Bool} {i : Instance} (h : Fires T g g') (hi : T settled i)
      (hpositive : ∀ a ∈ i.positive, a ∈ g'.possible) : Fires T g (fire settled g' i)

namespace Fires

variable {T : Bool → Instance → Prop}

theorem possible (h : Fires T g g') : g.possible <+: g'.possible := by
  induction h with
  | refl => exact List.prefix_refl _
  | fire _ _ _ ih => exact ih.trans (prefix_fire _ _ _)

theorem facts (h : Fires T g g') : g.facts ⊆ g'.facts := by
  induction h with
  | refl => exact List.Subset.refl _
  | fire _ _ _ ih => exact fun a ha => mem_fire (ih ha)

theorem nodup (h : Fires T g g') (hg : g.possible.Nodup) : g'.possible.Nodup := by
  induction h with
  | refl => exact hg
  | fire _ _ _ ih => exact nodup_fire ih

theorem forall_possible (h : Fires T g g') {P : GroundAtom → Prop}
    (hT : ∀ settled i a, T settled i → i.head = some a → (∀ b ∈ i.positive, P b) → P a)
    (hg : ∀ a ∈ g.possible, P a) : ∀ a ∈ g'.possible, P a := by
  induction h with
  | refl => exact hg
  | fire _ hi hpositive ih =>
    intro a ha
    rcases mem_possible_fire.1 ha with ha | ⟨ha, -⟩
    · exact ih a ha
    · exact hT _ _ a hi ha fun b hb => ih b (hpositive b hb)

theorem exists_of_new (h : Fires T g g') (ha : a ∈ g'.possible) (hnew : a ∉ g.possible) :
    ∃ settled i, T settled i ∧ i.head = some a :=
  (h.forall_possible (P := fun a => a ∈ g.possible ∨ ∃ settled i, T settled i ∧ i.head = some a)
    (fun settled i _ hi ha _ => .inr ⟨settled, i, hi, ha⟩) (fun _ => .inl) a ha).resolve_left hnew

theorem foldl {is : List Instance} (h : Fires T g g') (hT : ∀ i ∈ is, T settled i)
    (hpositive : ∀ i ∈ is, ∀ a ∈ i.positive, a ∈ g'.possible) :
    Fires T g (is.foldl (Grounding.fire settled) g') := by
  induction is generalizing g' with
  | nil => exact h
  | cons i is ih =>
    refine ih (h.fire (hT i List.mem_cons_self) (hpositive i List.mem_cons_self))
      (fun j hj => hT j (List.mem_cons_of_mem i hj)) fun j hj a ha => ?_
    exact (prefix_fire settled g' i).subset (hpositive j (List.mem_cons_of_mem i hj) a ha)

end Fires

/-- The instance has been looked at: its head is possible unless a fact removes it. -/
def Answers (g : Grounding) (i : Instance) : Prop :=
  ∀ a, i.head = some a → i.unblocked g.facts = true → a ∈ g.possible

theorem unblocked_of_subset {known more : List GroundAtom} (h : known ⊆ more)
    (hi : i.unblocked more = true) : i.unblocked known = true :=
  Instance.unblocked_iff.2 fun n hn a ha => Instance.unblocked_iff.1 hi n hn a (h ha)

theorem answers_fire (settled : Bool) (g : Grounding) (i : Instance) :
    (fire settled g i).Answers i := fun _ ha hunblocked =>
  mem_possible_fire.2 (.inr ⟨ha, unblocked_of_subset (fun _ => mem_fire) hunblocked⟩)

theorem Fires.answers {T : Bool → Instance → Prop} (h : Fires T g g') (hi : g.Answers i) :
    g'.Answers i := fun a ha hunblocked =>
  h.possible.subset (hi a ha (unblocked_of_subset h.facts hunblocked))

theorem answers_foldl {is : List Instance} (hi : i ∈ is)
    (hpositive : ∀ j ∈ is, ∀ a ∈ j.positive, a ∈ g.possible) :
    (is.foldl (fire settled) g).Answers i := by
  induction is generalizing g with
  | nil => cases hi
  | cons j is ih =>
    have hrest : ∀ k ∈ is, ∀ a ∈ k.positive, a ∈ (fire settled g j).possible := fun k hk a ha =>
      (prefix_fire settled g j).subset (hpositive k (List.mem_cons_of_mem j hk) a ha)
    rcases List.mem_cons.1 hi with rfl | hi
    · exact (Fires.foldl (T := fun _ _ => True) .refl (by simp) hrest).answers
        (answers_fire settled g i)
    · exact ih hi hrest

end Grounding

theorem Age.select_subset (old new : List GroundAtom) (age : Age) :
    age.select old new ⊆ old ++ new := by
  cases age <;> simp [select]

def nextQueue (passes queue : List Pass) (born : List GroundAtom) : List Pass :=
  (queue.flatMap fun p => passes.filter (·.follows p.statement born)).eraseDups

theorem mem_nextQueue {passes queue : List Pass} {born : List GroundAtom} {p : Pass} :
    p ∈ nextQueue passes queue born ↔
      p ∈ passes ∧ ∃ p' ∈ queue, p.follows p'.statement born = true := by
  simp only [nextQueue, List.mem_eraseDups, List.mem_flatMap, List.mem_filter]
  grind

theorem rounds_succ (passes : List Pass) (fuel : Nat) {queue : List Pass} {old : List GroundAtom}
    {g next : Grounding}
    (hnext : queue.foldl (Pass.run old (g.possible.drop old.length)) g = next) :
    rounds passes (fuel + 1) queue old g =
      let queue := nextQueue passes queue (next.possible.drop g.possible.length)
      if queue = [] then next else rounds passes fuel queue g.possible next := by
  subst hnext
  rw [rounds]
  dsimp only
  split
  · next hempty => exact (if_pos hempty).symm
  · next hne => exact (if_neg hne).symm

namespace Pass

variable {Q : Grounding → Prop} {passes queue : List Pass} {old new : List GroundAtom}
  {g : Grounding}

def Keeps (Q : Grounding → Prop) (p : Pass) : Prop :=
  ∀ old new g, old ++ new ⊆ g.possible → Q g → Q (run old new g p)

theorem prefix_run (old new : List GroundAtom) (g : Grounding) (p : Pass) :
    g.possible <+: (run old new g p).possible :=
  List.foldlRecOn (motive := fun g' : Grounding => g.possible <+: g'.possible) _ _
    (List.prefix_refl _) fun g' hg i _ => hg.trans (Grounding.prefix_fire p.settled g' i)

theorem prefix_foldl_run (old new : List GroundAtom) (g : Grounding) (queue : List Pass) :
    g.possible <+: (queue.foldl (run old new) g).possible :=
  List.foldlRecOn (motive := fun g' : Grounding => g.possible <+: g'.possible) _ _
    (List.prefix_refl _) fun g' hg p _ => hg.trans (prefix_run old new g' p)

theorem keeps_foldl_run (hqueue : ∀ p ∈ queue, p.Keeps Q) (hknown : old ++ new ⊆ g.possible)
    (h : Q g) : Q (queue.foldl (run old new) g) := by
  induction queue generalizing g with
  | nil => exact h
  | cons p queue ih =>
    exact ih (fun p' hp => hqueue p' (List.mem_cons_of_mem p hp))
      (List.Subset.trans hknown (prefix_run old new g p).subset)
      (hqueue p List.mem_cons_self old new g hknown h)

theorem append_drop_subset (h : old <+: g.possible) :
    old ++ g.possible.drop old.length ⊆ g.possible :=
  (List.prefix_iff_eq_append.1 h).symm ▸ List.Subset.refl _

theorem keeps_rounds (hpasses : ∀ p ∈ passes, p.Keeps Q) (fuel : Nat)
    (hqueue : ∀ p ∈ queue, p ∈ passes) (hold : old <+: g.possible) (h : Q g) :
    Q (rounds passes fuel queue old g) := by
  induction fuel generalizing queue old g with
  | zero => exact h
  | succ fuel ih =>
    have hnext := keeps_foldl_run (fun p hp => hpasses p (hqueue p hp)) (append_drop_subset hold) h
    rw [rounds_succ _ _ rfl]
    dsimp only
    split
    · exact hnext
    · exact ih (fun p hp => (mem_nextQueue.1 hp).1) (prefix_foldl_run _ _ _ _) hnext

theorem keeps_groundBlocks (bound : Nat) {blocks : List (List Statement)}
    (hblocks : ∀ block ∈ blocks, ∀ s ∈ block, ∀ pending, ∀ p ∈ ofStatement pending s, p.Keeps Q)
    (h : Q g) : Q (groundBlocks bound blocks g) := by
  induction blocks generalizing g with
  | nil => exact h
  | cons block later ih =>
    refine ih (fun b hb => hblocks b (List.mem_cons_of_mem block hb)) ?_
    refine keeps_rounds (fun p hp => ?_) _ (fun _ hp => hp) List.nil_prefix h
    obtain ⟨s, hs, hp⟩ := List.mem_flatMap.1 hp
    exact hblocks block List.mem_cons_self s hs _ p hp

end Pass

end AnswerSetLearning.Solver
