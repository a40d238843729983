import AnswerSetLearning.Proofs.Solver.LeastModels
import AnswerSetLearning.Proofs.Solver.Grounding
import AnswerSetLearning.Proofs.Solver.Unification

namespace AnswerSetLearning.Solver

/-! ## Passes -/

namespace Pass

variable {T : Bool → Instance → Prop} {p : Pass} {queue : List Pass} {old new : List GroundAtom}
  {g : Grounding} {i : Instance}

structure Fits (T : Bool → Instance → Prop) (p : Pass) : Prop where
  safe : p.statement.clause.isSafe = true
  length : p.statement.clause.positive.length = p.ages.length
  allows : ∀ v i, p.statement.clause.Grounds v i → T p.settled i

structure Takes (old new : List GroundAtom) (p : Pass) (i : Instance) : Prop where
  positive : List.Forall₂ (· ∈ ·) i.positive (p.ages.map (Age.select old new))
  grounds : ∃ v, p.statement.clause.Grounds v i

theorem Takes.mem (h : p.Takes old new i) : ∀ a ∈ i.positive, a ∈ old ++ new := by
  intro a ha
  obtain ⟨as, has, ha⟩ := exists_of_forall₂ h.positive ha
  obtain ⟨age, -, rfl⟩ := List.mem_map.1 has
  exact Age.select_subset old new age ha

theorem Fits.mem_instancesFrom_iff (hp : p.Fits T) :
    i ∈ p.statement.clause.instancesFrom (p.ages.map (Age.select old new)) ↔ p.Takes old new i :=
  (Clause.mem_instancesFrom_iff (by simpa using hp.length) hp.safe).trans
    ⟨fun h => ⟨h.1, h.2⟩, fun h => ⟨h.1, h.2⟩⟩

theorem Fits.keeps (hp : p.Fits T) (g : Grounding) : p.Keeps (g.Fires T) := by
  intro old new g' hknown h
  refine h.foldl (fun i hi => ?_) fun i hi a ha => hknown ((hp.mem_instancesFrom_iff.1 hi).mem a ha)
  obtain ⟨v, hv⟩ := (hp.mem_instancesFrom_iff.1 hi).grounds
  exact hp.allows v i hv

section Run

variable (hknown : old ++ new ⊆ g.possible)

include hknown

theorem fires_foldl_run (hqueue : ∀ p ∈ queue, p.Fits T) :
    g.Fires T (queue.foldl (run old new) g) :=
  keeps_foldl_run (fun p hp => (hqueue p hp).keeps g) hknown .refl

theorem Fits.answers_run (hp : p.Fits T) (hi : p.Takes old new i) : (run old new g p).Answers i :=
  Grounding.answers_foldl (hp.mem_instancesFrom_iff.2 hi)
    fun _ hj a ha => hknown ((hp.mem_instancesFrom_iff.1 hj).mem a ha)

theorem answers_foldl_run (hqueue : ∀ p ∈ queue, p.Fits T) (hp : p ∈ queue)
    (hi : p.Takes old new i) : (queue.foldl (run old new) g).Answers i := by
  induction queue generalizing g with
  | nil => cases hp
  | cons q queue ih =>
    have hrest : ∀ p ∈ queue, p.Fits T := fun p hp => hqueue p (List.mem_cons_of_mem q hp)
    have hrun := List.Subset.trans hknown (prefix_run old new g q).subset
    rcases List.mem_cons.1 hp with rfl | hp
    · have hanswers := (hqueue p List.mem_cons_self).answers_run hknown hi
      exact (fires_foldl_run hrun hrest).answers hanswers
    · exact ih hrun hrest hp

end Run

end Pass

/-! ## Sharing new atoms out -/

namespace Age

variable {old new as : List GroundAtom}

theorem length_of_mem_shares {flags : List Bool} {ages : List Age} (h : ages ∈ shares flags) :
    flags.length = ages.length := by
  induction flags generalizing ages with
  | nil => cases h
  | cons f flags ih =>
    cases f with
    | false =>
      obtain ⟨rest, hrest, rfl⟩ := List.mem_map.1 h
      rw [List.length_cons, List.length_cons, ih hrest]
    | true =>
      rcases List.mem_cons.1 h with rfl | h
      · simp
      · obtain ⟨rest, hrest, rfl⟩ := List.mem_map.1 h
        rw [List.length_cons, List.length_cons, ih hrest]

theorem forall₂_any {β : Type} {l : List β} (hlength : l.length = as.length)
    (h : ∀ a ∈ as, a ∈ old ++ new) :
    List.Forall₂ (· ∈ ·) as ((l.map fun _ => any).map (select old new)) := by
  rw [List.map_map, List.forall₂_map_right_iff]
  induction as generalizing l with
  | nil => cases List.length_eq_zero_iff.1 hlength; exact .nil
  | cons a as ih =>
    cases l with
    | nil => cases hlength
    | cons b l =>
      exact .cons (h a List.mem_cons_self)
        (ih (Nat.succ.inj hlength) fun a ha => h a (List.mem_cons_of_mem _ ha))

/-- If the pattern of a new atom is defined by the block, there is a way to share the atoms out that
has a new atom for the pattern for which it waits. -/
theorem exists_mem_shares {v : Valuation} {f : Pattern → Bool} {ps : List Pattern}
    (hps : List.Forall₂ (Pattern.Matches v) ps as) (h : ∀ a ∈ as, a ∈ old ++ new)
    (hnew : ∃ pa ∈ ps.zip as, f pa.1 = true ∧ pa.2 ∈ new) :
    ∃ ages ∈ shares (ps.map f), List.Forall₂ (· ∈ ·) as (ages.map (select old new)) ∧
      ∃ q a, ((ps.zip ages).find? (·.2 = .new)).map Prod.fst = some q ∧ a ∈ new ∧
        q.Matches v a := by
  induction hps with
  | nil =>
    obtain ⟨_, hmem, -⟩ := hnew
    cases hmem
  | @cons p a ps as hpa hps ih =>
    have ha := h a List.mem_cons_self
    have hrest : ∀ a ∈ as, a ∈ old ++ new := fun a ha => h a (List.mem_cons_of_mem _ ha)
    rw [List.map_cons]
    by_cases hfirst : f p = true ∧ a ∈ new
    · obtain ⟨hf, ha⟩ := hfirst
      rw [hf]
      exact ⟨_, List.mem_cons_self, .cons ha (forall₂_any (by simpa using hps.length_eq) hrest),
        p, a, by simp, ha, hpa⟩
    -- Patterns before the first one that takes a new atom take old ones.
    · have hlater : ∃ pa ∈ ps.zip as, f pa.1 = true ∧ pa.2 ∈ new := by
        obtain ⟨pa, hmem, hpa⟩ := hnew
        rcases List.mem_cons.1 hmem with rfl | hmem
        · exact absurd hpa hfirst
        · exact ⟨pa, hmem, hpa⟩
      obtain ⟨ages, hages, htakes, q, b, hq, hb⟩ := ih hrest hlater
      cases hf : f p with
      | false =>
        exact ⟨any :: ages, List.mem_map_of_mem hages, .cons ha htakes, q, b, by simpa using hq,
          hb⟩
      | true =>
        have hold : a ∈ old :=
          (List.mem_append.1 ha).resolve_right fun hnew => hfirst ⟨hf, hnew⟩
        exact ⟨.old :: ages, List.mem_cons_of_mem _ (List.mem_map_of_mem hages),
          .cons hold htakes, q, b, by simpa using hq, hb⟩

end Age

/-! ## Statements of a block -/

theorem Statement.defines_of_grounds {s : Statement} {v v' : Valuation} {i : Instance}
    {a : GroundAtom} {q : Pattern} (hs : ∀ p, s.clause.head = some p → p.IsUnprimed)
    (hi : s.clause.Grounds v i) (ha : i.head = some a) (hq : q.Matches v' a) :
    s.defines q = true := by
  obtain ⟨p, hp, hpa⟩ := hi.exists_head ha
  rw [defines, hp, Option.any_some]
  exact Pattern.unifies_of_matches (hs p hp) hpa hq

def definedBy (pending : List Statement) (p : Pattern) : Bool := pending.any (·.defines p)

def Allows (block pending : List Statement) (settled : Bool) (i : Instance) : Prop :=
  ∃ s ∈ block, settled = (!s.clause.negative.any (definedBy pending)) ∧ ∃ v, s.clause.Grounds v i

structure IsBlock (block pending : List Statement) : Prop where
  subset : block ⊆ pending
  safe : ∀ s ∈ block, s.clause.isSafe = true
  unprimed : ∀ s ∈ block, ∀ p, s.clause.head = some p → p.IsUnprimed

section Block

variable {block pending : List Statement} {s : Statement} {v : Valuation} {i : Instance}
  {old new : List GroundAtom}

abbrev Statement.recursion (pending : List Statement) (s : Statement) : List Bool :=
  s.clause.positive.map (definedBy pending)

theorem Pass.mem_ofStatement_iff {p : Pass} : p ∈ ofStatement pending s ↔
    ∃ ages ∈ if (s.recursion pending).any id then Age.shares (s.recursion pending)
        else [(s.recursion pending).map fun _ => .any],
      ⟨s, !s.clause.negative.any (definedBy pending), ages⟩ = p :=
  List.mem_map

theorem Pass.of_mem_ofStatement {p : Pass} (hp : p ∈ ofStatement pending s) :
    p.statement = s ∧ p.settled = (!s.clause.negative.any (definedBy pending)) ∧
      s.clause.positive.length = p.ages.length := by
  obtain ⟨ages, hages, rfl⟩ := List.mem_map.1 hp
  refine ⟨rfl, rfl, ?_⟩
  split at hages
  · simpa using Age.length_of_mem_shares hages
  · cases List.mem_singleton.1 hages
    simp

theorem IsBlock.fits (h : IsBlock block pending) {p : Pass}
    (hp : p ∈ block.flatMap (Pass.ofStatement pending)) : p.Fits (Allows block pending) := by
  obtain ⟨s, hs, hp⟩ := List.mem_flatMap.1 hp
  obtain ⟨rfl, hsettled, hlength⟩ := Pass.of_mem_ofStatement hp
  exact ⟨h.safe _ hs, hlength, fun v i hi => ⟨_, hs, hsettled, v, hi⟩⟩

theorem exists_pass (hi : s.clause.Grounds v i) (hknown : ∀ a ∈ i.positive, a ∈ old ++ new)
    (hnew : ∃ pa ∈ s.clause.positive.zip i.positive,
      definedBy pending pa.1 = true ∧ pa.2 ∈ new) :
    ∃ p ∈ Pass.ofStatement pending s, p.Takes old new i ∧
      ∃ q a, p.awaited? = some q ∧ a ∈ new ∧ q.Matches v a := by
  obtain ⟨ages, hages, htakes, hawaited⟩ := Age.exists_mem_shares hi.positive hknown hnew
  obtain ⟨⟨q, a⟩, hmem, hq, -⟩ := hnew
  have hrecursive : (s.recursion pending).any id = true := by
    rw [List.any_map, List.any_eq_true]
    exact ⟨q, (List.of_mem_zip hmem).1, hq⟩
  exact ⟨_, Pass.mem_ofStatement_iff.2 ⟨ages, by rwa [if_pos hrecursive], rfl⟩, ⟨htakes, v, hi⟩,
    hawaited⟩

theorem exists_first_pass (hi : s.clause.Grounds v i) (hknown : ∀ a ∈ i.positive, a ∈ new) :
    ∃ p ∈ Pass.ofStatement pending s, p.Takes [] new i := by
  by_cases hrecursive : (s.recursion pending).any id = true
  · obtain ⟨q, hmem, hq⟩ := List.any_eq_true.1 (List.any_map ▸ hrecursive)
    obtain ⟨a, ha, hzip⟩ := exists_of_forall₂
      (List.forall₂_iff_zip.2 ⟨hi.positive.length_eq, fun h => h⟩) hmem
    obtain ⟨p, hp, htakes, -⟩ :=
      exists_pass hi (List.nil_append new ▸ hknown) ⟨(q, a), hzip, hq, hknown a ha⟩
    exact ⟨p, hp, htakes⟩
  · have hlength : (s.recursion pending).length = i.positive.length := by
      simpa using hi.positive.length_eq
    exact ⟨_, Pass.mem_ofStatement_iff.2
      ⟨_, by rw [if_neg hrecursive]; exact List.mem_singleton_self _, rfl⟩,
      Age.forall₂_any hlength hknown, v, hi⟩

/-! ## Rounds -/

/-- Every instance of the block whose positive atoms are possible has been looked at, or is taken
by a pass in the queue. -/
def Covered (block : List Statement) (queue : List Pass) (old : List GroundAtom) (g : Grounding) :
    Prop :=
  ∀ s ∈ block, ∀ v i, s.clause.Grounds v i → (∀ a ∈ i.positive, a ∈ g.possible) →
    g.Answers i ∨ ∃ p ∈ queue, p.Takes old (g.possible.drop old.length) i

variable {g : Grounding}

theorem covered_first (block pending : List Statement) (g : Grounding) :
    Covered block (block.flatMap (Pass.ofStatement pending)) [] g := by
  intro s hs v i hi hknown
  obtain ⟨p, hp, htakes⟩ := exists_first_pass hi hknown
  exact .inr ⟨p, List.mem_flatMap.2 ⟨s, hs, hp⟩, htakes⟩

theorem Pass.follows_of_matches {p : Pass} {q : Pattern} {a : GroundAtom} {born : List GroundAtom}
    (hq : p.awaited? = some q) (hs : s.defines q = true) (ha : a ∈ born) (hqa : q.Matches v a) :
    p.follows s born = true := by
  obtain ⟨τ, hτ, -⟩ := Pattern.match?_iff.2 ⟨Subst.agrees_nil v, hqa⟩
  rw [follows, hq, Option.any_some, hs, Bool.true_and, List.any_eq_true]
  exact ⟨a, ha, by rw [hτ, Option.isSome_some]⟩

theorem Pass.length_lt_of_follows {p : Pass} {known found : List GroundAtom}
    (h : p.follows s (found.drop known.length) = true) : known.length < found.length := by
  by_contra hle
  rw [List.drop_eq_nil_of_le (Nat.le_of_not_lt hle)] at h
  simp [follows] at h

/-- A round of the passes in a queue, after which the grounding is `next`. -/
structure IsRound (block pending : List Statement) (queue : List Pass) (old : List GroundAtom)
    (g next : Grounding) : Prop where
  isBlock : IsBlock block pending
  inBlock : ∀ p ∈ queue, p ∈ block.flatMap (Pass.ofStatement pending)
  start : old <+: g.possible
  ending : queue.foldl (Pass.run old (g.possible.drop old.length)) g = next

namespace IsRound

variable {queue : List Pass} {next : Grounding} (h : IsRound block pending queue old g next)

include h

theorem fits : ∀ p ∈ queue, p.Fits (Allows block pending) :=
  fun p hp => h.isBlock.fits (h.inBlock p hp)

theorem fires : g.Fires (Allows block pending) next :=
  h.ending ▸ Pass.fires_foldl_run (Pass.append_drop_subset h.start) h.fits

theorem born : g.possible ++ next.possible.drop g.possible.length = next.possible :=
  List.prefix_iff_eq_append.1 h.fires.possible

theorem exists_defines {a : GroundAtom} (ha : a ∈ next.possible) (hnew : a ∉ g.possible) :
    ∃ p ∈ queue, p.statement ∈ block ∧ ∀ v q, q.Matches v a → p.statement.defines q = true := by
  let T : Bool → Instance → Prop := fun _ i => ∃ p ∈ queue, ∃ v, p.statement.clause.Grounds v i
  have hfits : ∀ p ∈ queue, p.Fits T := fun p hp =>
    ⟨(h.fits p hp).safe, (h.fits p hp).length, fun v i hi => ⟨p, hp, v, hi⟩⟩
  have hfires := Pass.fires_foldl_run (Pass.append_drop_subset h.start) hfits
  rw [h.ending] at hfires
  obtain ⟨-, i, ⟨p, hp, v, hi⟩, hhead⟩ := hfires.exists_of_new ha hnew
  obtain ⟨s, hs, hps⟩ := List.mem_flatMap.1 (h.inBlock p hp)
  obtain ⟨rfl, -⟩ := Pass.of_mem_ofStatement hps
  exact ⟨p, hp, hs, fun v q hq =>
    Statement.defines_of_grounds (h.isBlock.unprimed _ hs) hi hhead hq⟩

theorem covered (hnodup : g.possible.Nodup) (hcovered : Covered block queue old g) :
    Covered block (nextQueue (block.flatMap (Pass.ofStatement pending)) queue
      (next.possible.drop g.possible.length)) g.possible next := by
  intro s hs v i hi hpositive
  by_cases hall : ∀ a ∈ i.positive, a ∈ g.possible
  · left
    rcases hcovered s hs v i hi hall with hanswers | ⟨p, hp, htakes⟩
    · exact h.fires.answers hanswers
    · exact h.ending ▸ Pass.answers_foldl_run (Pass.append_drop_subset h.start) h.fits hp htakes
  · right
    push Not at hall
    obtain ⟨a, ha, hnew⟩ := hall
    have hmem {a : GroundAtom} (ha : a ∈ next.possible) (hnew : a ∉ g.possible) :
        a ∈ next.possible.drop g.possible.length := by
      rw [← h.born] at ha
      exact (List.mem_append.1 ha).resolve_left hnew
    obtain ⟨q, hq, hzip⟩ := exists_of_forall₂
      (List.forall₂_iff_zip.2 ⟨hi.positive.length_eq, fun h => h⟩).flip ha
    obtain ⟨p, -, hp, hdefines⟩ := h.exists_defines (hpositive a ha) hnew
    have hpending : definedBy pending q = true := List.any_eq_true.2
      ⟨_, h.isBlock.subset hp, hdefines v q (List.forall₂_zip hi.positive hzip)⟩
    obtain ⟨p, hp, htakes, q, b, hawaited, hb, hqb⟩ := exists_pass hi
      (h.born.symm ▸ hpositive) ⟨(q, a), hzip, hpending, hmem (hpositive a ha) hnew⟩
    -- the pass follows the one that has found the atom for which it waits
    have hbnew : b ∉ g.possible := fun hold => by
      have hdisjoint := h.born.symm ▸ h.fires.nodup hnodup
      exact List.disjoint_of_nodup_append hdisjoint hold hb
    obtain ⟨p', hp', -, hdefines⟩ := h.exists_defines (List.mem_of_mem_drop hb) hbnew
    have hfollows := Pass.follows_of_matches hawaited (hdefines v q hqb) hb hqb
    exact ⟨p, mem_nextQueue.2 ⟨List.mem_flatMap.2 ⟨s, hs, hp⟩, p', hp', hfollows⟩, htakes⟩

end IsRound

theorem IsBlock.fires_rounds (h : IsBlock block pending) (fuel : Nat) (g : Grounding) :
    let passes := block.flatMap (Pass.ofStatement pending)
    g.Fires (Allows block pending) (rounds passes fuel passes [] g) :=
  Pass.keeps_rounds (fun _ hp => (h.fits hp).keeps g) fuel (fun _ hp => hp) List.nil_prefix .refl

theorem IsBlock.answers_rounds (h : IsBlock block pending) {all : List GroundAtom}
    (hall : ∀ settled i a, Allows block pending settled i → i.head = some a →
      (∀ b ∈ i.positive, b ∈ all) → a ∈ all) (fuel : Nat) {queue : List Pass}
    (hqueue : ∀ p ∈ queue, p ∈ block.flatMap (Pass.ofStatement pending)) (hold : old <+: g.possible)
    (hcovered : Covered block queue old g) (hnodup : g.possible.Nodup)
    (hg : ∀ a ∈ g.possible, a ∈ all) (hfuel : all.length < fuel + g.possible.length)
    {last : Grounding}
    (hlast : rounds (block.flatMap (Pass.ofStatement pending)) fuel queue old g = last) :
    ∀ s ∈ block, ∀ v i, s.clause.Grounds v i → (∀ a ∈ i.positive, a ∈ last.possible) →
      last.Answers i := by
  induction fuel generalizing queue old g with
  | zero =>
    have hlength := (List.subperm_of_subset hnodup hg).length_le
    omega
  | succ fuel ih =>
    obtain ⟨next, hnext⟩ : ∃ next,
        queue.foldl (Pass.run old (g.possible.drop old.length)) g = next := ⟨_, rfl⟩
    have hround : IsRound block pending queue old g next := ⟨h, hqueue, hold, hnext⟩
    have hcovered := hround.covered hnodup hcovered
    rw [rounds_succ _ _ hnext] at hlast
    dsimp only at hlast
    split at hlast
    · next hempty =>
      rw [hempty] at hcovered
      subst hlast
      exact fun s hs v i hi hpositive => (hcovered s hs v i hi hpositive).resolve_right (by simp)
    · next hne =>
      obtain ⟨p, hp⟩ := List.exists_mem_of_ne_nil _ hne
      obtain ⟨-, _, -, hfollows⟩ := mem_nextQueue.1 hp
      -- A further round has an atom that the last one found, and there are no more than `all`.
      have hlonger := Pass.length_lt_of_follows hfollows
      exact ih (fun p hp => (mem_nextQueue.1 hp).1) hround.fires.possible hcovered
        (hround.fires.nodup hnodup) (hround.fires.forall_possible hall hg) (by omega) hlast

end Block

end AnswerSetLearning.Solver
