import AnswerSetLearning.Proofs.Solver.Components
import AnswerSetLearning.Proofs.Solver.Rounds

namespace AnswerSetLearning.Solver

theorem Pattern.absence_forbids_iff {p : Pattern} {v : Valuation} {a : GroundAtom} :
    (p.absence v).forbids a = true ↔ p.Matches v a := by
  obtain ⟨name, args⟩ := p
  have hagree (ts : List Term) : Absence.agree (absence v ⟨name, args⟩).args ts = true ↔
      List.Forall₂ (Arg.Matches v) args ts := by
    induction args generalizing ts with
    | nil => cases ts <;> simp [absence, Absence.agree]
    | cons arg as ih =>
      cases ts with
      | nil => cases arg <;> simp [absence, Absence.agree]
      | cons t ts =>
        rw [List.forall₂_cons, ← ih]
        cases arg with
        | value s => simp [absence, Absence.agree, Arg.matches_value]
        | var x => simp [absence, Absence.agree, Arg.matches_var]
        | anonymous => simp [absence, Absence.agree, Arg.Matches.anonymous]
  rw [Absence.forbids, Bool.and_eq_true, decide_eq_true_iff]
  exact (and_congr_right fun _ => hagree a.args).trans
    ⟨fun h => ⟨h.1, h.2⟩, fun h => ⟨h.predicate, h.args⟩⟩

theorem Clause.Grounds.admits_iff {c : Clause} {v : Valuation} {i : Instance} (h : c.Grounds v i)
    {M : Set GroundAtom} : i.Admits M ↔ ∀ p ∈ c.negative, ∀ a ∈ M, ¬ p.Matches v a := by
  simp only [Instance.Admits, h.negative, List.forall_mem_map, ← Bool.not_eq_true,
    Pattern.absence_forbids_iff]

/-! ## Facts of a program -/

theorem Clause.exists_of_fact? {c : Clause} {a : GroundAtom} (h : c.fact? = some a) :
    c.atoms = [] ∧ c.tests = [] ∧ ∃ p, c.head = some p ∧ ∀ v b, p.Matches v b ↔ a = b := by
  unfold fact? at h
  split at h
  · next hempty =>
    obtain ⟨p, hp, ha⟩ := Option.bind_eq_some_iff.1 h
    rw [Bool.and_eq_true, List.isEmpty_iff, List.isEmpty_iff] at hempty
    have hargs : ∀ arg ∈ p.args, (arg.eval? []).isSome := by
      intro arg harg
      obtain ⟨ts, hts, -⟩ := Option.map_eq_some_iff.1 ha
      obtain ⟨t, -, ht⟩ := exists_of_forall₂ (forall₂_of_mapM hts) harg
      rw [ht, Option.isSome_some]
    refine ⟨hempty.1, hempty.2, p, hp, fun v b => ?_⟩
    rw [← Pattern.eval?_eq_some_iff (Subst.agrees_nil v) hargs, ha, Option.some.injEq]
  · cases h

theorem Clause.grounds_of_fact? {c : Clause} {a : GroundAtom} (h : c.fact? = some a)
    (v : Valuation) : c.Grounds v ⟨some a, [], []⟩ := by
  obtain ⟨hatoms, htests, p, hp, ha⟩ := exists_of_fact? h
  refine ⟨hp ▸ .some ((ha v a).2 rfl), ?_, ?_, ?_⟩
  · simp [positive, hatoms]
  · simp [negative, hatoms]
  · simp [htests]

theorem Clause.head_of_fact? {c : Clause} {a b : GroundAtom} (h : c.fact? = some a)
    {v : Valuation} {i : Instance} (hi : c.Grounds v i) (hb : i.head = some b) : a = b := by
  obtain ⟨-, -, p, hp, ha⟩ := exists_of_fact? h
  obtain ⟨q, hq, hqb⟩ := hi.exists_head hb
  cases hp.symm.trans hq
  exact (ha v b).1 hqb

structure Consists (program : List Clause) (given : List GroundAtom) (statements : List Statement) :
    Prop where
  cases : ∀ c ∈ program, (∃ a ∈ given, c.fact? = some a) ∨ ∃ s ∈ statements, s.clause = c
  exists_fact : ∀ a ∈ given, ∃ c ∈ program, c.fact? = some a
  clause_mem : ∀ s ∈ statements, s.clause ∈ program
  safe : ∀ s ∈ statements, s.clause.isSafe = true
  unprimed : ∀ s ∈ statements, ∀ p, s.clause.head = some p → p.IsUnprimed

/-! ## One block -/

def Final (later : List Statement) (a : GroundAtom) : Prop :=
  ∀ t ∈ later, ∀ v i, t.clause.Grounds v i → i.head ≠ some a

/-- The set is between the facts and the possible atoms, so far as the statements that are not
pending derive it. -/
structure Brackets (given : List GroundAtom) (statements pending : List Statement)
    (N : Set GroundAtom) (g : Grounding) : Prop where
  facts : ∀ a ∈ g.facts, a ∈ N
  given : ∀ a ∈ given, a ∈ g.possible
  derived : ∀ s ∈ statements, s ∉ pending → ∀ v i a, s.clause.Grounds v i → i.Admits N →
    (∀ b ∈ i.positive, b ∈ N) → i.head = some a → a ∈ g.possible

section Pending

variable {program : List Clause} {given : List GroundAtom}
  {statements pending block : List Statement} {N : Set GroundAtom} {g g' : Grounding}
  (hprogram : Consists program given statements)

include hprogram

theorem Consists.final (hpending : pending ⊆ statements) {p : Pattern}
    (hp : definedBy pending p = false) {v : Valuation} {a : GroundAtom} (hpa : p.Matches v a) :
    Final pending a := fun t ht _ _ hi ha => List.any_eq_false.1 hp t ht
  (Statement.defines_of_grounds (hprogram.unprimed t (hpending ht)) hi ha hpa)

variable (hN : ∀ a, a ∈ N ↔ Derives program N a)

include hN

theorem Consists.mem_of_grounds {s : Statement} (hs : s ∈ statements) {v : Valuation}
    {i : Instance} {a : GroundAtom} (hi : s.clause.Grounds v i) (hadmits : i.Admits N)
    (hpositive : ∀ b ∈ i.positive, b ∈ N) (ha : i.head = some a) : a ∈ N :=
  (hN a).2 (.rule (hprogram.clause_mem s hs) hi ha hadmits fun b hb => (hN b).1 (hpositive b hb))

theorem Brackets.mem_possible (h : Brackets given statements pending N g) {a : GroundAtom}
    (hfinal : Final pending a) (ha : a ∈ N) : a ∈ g.possible := by
  cases (hN a).1 ha with
  | rule hc hi hhead hadmits hbody =>
    rcases hprogram.cases _ hc with ⟨b, hb, hfact⟩ | ⟨s, hs, rfl⟩
    · exact Clause.head_of_fact? hfact hi hhead ▸ h.given b hb
    · have hnot : s ∉ pending := fun hmem => hfinal s hmem _ _ hi hhead
      exact h.derived s hs hnot _ _ a hi hadmits (fun b hb => (hN b).2 (hbody b hb)) hhead

variable (hpending : pending ⊆ statements)

include hpending

theorem Brackets.admits (h : Brackets given statements pending N g) {c : Clause} {v : Valuation}
    {i : Instance} (hi : c.Grounds v i) (hsettled : c.negative.any (definedBy pending) = false)
    {known : List GroundAtom} (hknown : g.possible ⊆ known)
    (hunblocked : i.unblocked known = true) : i.Admits N := by
  rw [hi.admits_iff]
  intro p hp a ha hpa
  have hnot : definedBy pending p = false := by simpa using List.any_eq_false.1 hsettled p hp
  have hpossible := h.mem_possible hprogram hN (hprogram.final hpending hnot hpa) ha
  exact hi.admits_iff.1 (Instance.unblocked_iff.1 hunblocked) p hp a (hknown hpossible) hpa

theorem Brackets.facts_of_fires (h : Brackets given statements pending N g)
    (hblock : block ⊆ statements) (hfires : g.Fires (Allows block pending) g') :
    ∀ a ∈ g'.facts, a ∈ N := by
  induction hfires with
  | refl => exact h.facts
  | fire hfires hi _ ih =>
    intro a ha
    rcases Grounding.mem_facts_fire.1 ha with ha | ⟨hhead, -, hsettled, hunblocked, hsupported⟩
    · exact ih a ha
    · obtain ⟨s, hs, rfl, v, hv⟩ := hi
      have hadmits := h.admits hprogram hN hpending hv (by simpa using hsettled)
        hfires.possible.subset hunblocked
      exact hprogram.mem_of_grounds hN (hblock hs) hv hadmits
        (fun b hb => ih b (Instance.supported_iff.1 hsupported b hb)) hhead

end Pending

/-- The statements that are left when a block has been grounded define no positive atoms of the
others. -/
structure Precedes (statements later : List Statement) : Prop where
  subset : later ⊆ statements
  order : ∀ s ∈ statements, s ∉ later → ∀ t ∈ later, ∀ p ∈ s.clause.positive, t.defines p = false

section Later

variable {program : List Clause} {given : List GroundAtom}
  {statements block later : List Statement} {N : Set GroundAtom} {g g' : Grounding}
  (hprogram : Consists program given statements) (hlater : Precedes statements later)

include hprogram hlater

theorem Precedes.final {s : Statement} (hs : s ∈ statements) (hnot : s ∉ later) {v : Valuation}
    {i : Instance} (hi : s.clause.Grounds v i) {a : GroundAtom} (ha : a ∈ i.positive) :
    Final later a := by
  obtain ⟨p, hp, hpa⟩ := exists_of_forall₂ hi.positive.flip ha
  have hdefined : definedBy later p = false :=
    List.any_eq_false.2 fun t ht => by simp [hlater.order s hs hnot t ht p hp]
  exact hprogram.final hlater.subset hdefined hpa

variable (hN : ∀ a, a ∈ N ↔ Derives program N a)
  (h : Brackets given statements (block ++ later) N g) (hfacts : ∀ a ∈ g'.facts, a ∈ N)
  (hgrows : g.possible ⊆ g'.possible)
  (hanswers : ∀ s ∈ block, ∀ v i, s.clause.Grounds v i → (∀ a ∈ i.positive, a ∈ g'.possible) →
    g'.Answers i)

include hN h hfacts hgrows hanswers

theorem Brackets.mem_of_final {a : GroundAtom} (ha : a ∈ N) (hfinal : Final later a) :
    a ∈ g'.possible := by
  have hderives := (hN a).1 ha
  clear ha
  induction hderives with
  | @rule c v i a hc hi hhead hadmits hbody ih =>
    rcases hprogram.cases c hc with ⟨b, hb, hfact⟩ | ⟨s, hs, rfl⟩
    · exact hgrows (Clause.head_of_fact? hfact hi hhead ▸ h.given b hb)
    · have hnot : s ∉ later := fun hmem => hfinal s hmem v i hi hhead
      by_cases hblock : s ∈ block
      · have hpositive : ∀ b ∈ i.positive, b ∈ g'.possible := fun b hb =>
          ih b hb (hlater.final hprogram hs hnot hi hb)
        exact hanswers s hblock v i hi hpositive a hhead
          (Instance.unblocked_iff.2 fun n hn b hb => hadmits n hn b (hfacts b hb))
      · exact hgrows (h.derived s hs (by simp [hblock, hnot]) v i a hi hadmits
          (fun b hb => (hN b).2 (hbody b hb)) hhead)

theorem Brackets.next : Brackets given statements later N g' where
  facts := hfacts
  given a ha := hgrows (h.given a ha)
  derived s hs hnot v i a hi hadmits hpositive hhead := by
    by_cases hblock : s ∈ block
    · have hpossible : ∀ b ∈ i.positive, b ∈ g'.possible := fun b hb =>
        h.mem_of_final hprogram hlater hN hfacts hgrows hanswers (hpositive b hb)
          (hlater.final hprogram hs hnot hi hb)
      exact hanswers s hblock v i hi hpossible a hhead
        (Instance.unblocked_iff.2 fun n hn b hb => hadmits n hn b (hfacts b hb))
    · exact hgrows (h.derived s hs (by simp [hblock, hnot]) v i a hi hadmits hpositive hhead)

end Later

/-! ## All blocks -/

section Blocks

variable {program : List Clause} {given all : List GroundAtom} {statements : List Statement}
  {N : Set GroundAtom} (hprogram : Consists program given statements)
  (hN : ∀ a, a ∈ N ↔ Derives program N a)
  (hall : ∀ s ∈ statements, ∀ v i a, s.clause.Grounds v i → i.head = some a →
    (∀ b ∈ i.positive, b ∈ all) → a ∈ all)

include hprogram hN hall

theorem Brackets.groundBlocks {bound : Nat} (hbound : all.length ≤ bound)
    {blocks : List (List Statement)} (hblocks : Precedes statements blocks.flatten)
    (hordered : blocks.Pairwise fun b c => ∀ s ∈ b, ∀ t ∈ c, ∀ p ∈ s.clause.positive,
      t.defines p = false)
    {g : Grounding} (hnodup : g.possible.Nodup) (hg : ∀ a ∈ g.possible, a ∈ all)
    (h : Brackets given statements blocks.flatten N g) :
    Brackets given statements [] N (Solver.groundBlocks bound blocks g) := by
  induction blocks generalizing g with
  | nil => exact h
  | cons block later ih =>
    rw [List.flatten_cons] at hblocks h
    rw [List.pairwise_cons] at hordered
    have hsubset : block ⊆ statements := fun s hs => hblocks.subset (List.mem_append_left _ hs)
    have hlater : Precedes statements later.flatten := by
      refine ⟨fun s hs => hblocks.subset (List.mem_append_right _ hs), fun s hs hnot t ht => ?_⟩
      by_cases hblock : s ∈ block
      · obtain ⟨c, hc, ht⟩ := List.mem_flatten.1 ht
        exact hordered.1 c hc s hblock t ht
      · exact hblocks.order s hs (by simp [hblock, hnot]) t (List.mem_append_right _ ht)
    have hblock : IsBlock block (block ++ later.flatten) :=
      ⟨List.subset_append_left _ _, fun s hs => hprogram.safe s (hsubset hs),
        fun s hs => hprogram.unprimed s (hsubset hs)⟩
    have hstep : ∀ settled i a, Allows block (block ++ later.flatten) settled i →
        i.head = some a → (∀ b ∈ i.positive, b ∈ all) → a ∈ all := by
      rintro settled i a ⟨s, hs, -, v, hi⟩
      exact hall s (hsubset hs) v i a hi
    have hfires := hblock.fires_rounds (bound + 1) g
    have hanswers := hblock.answers_rounds hstep (bound + 1) (fun _ hp => hp) List.nil_prefix
      (covered_first block _ g) hnodup hg (by omega) rfl
    have hfacts := h.facts_of_fires hprogram hN hblocks.subset hsubset hfires
    exact ih hlater hordered.2 (hfires.nodup hnodup) (hfires.forall_possible hstep hg)
      (h.next hprogram hlater hN hfacts hfires.possible.subset hanswers)

end Blocks

namespace Grounding

theorem Fires.possible_subset_facts {T : Bool → Instance → Prop} {g g' : Grounding}
    (h : Fires T g g') (hT : ∀ settled i a, T settled i → i.head = some a → settled = true)
    (hg : g.possible ⊆ g.facts) : g'.possible ⊆ g'.facts := by
  induction h with
  | refl => exact hg
  | fire _ hi hpositive ih =>
    intro a ha
    rcases mem_possible_fire.1 ha with ha | ⟨hhead, hunblocked⟩
    · exact mem_fire (ih ha)
    · exact mem_facts_fire.2 (.inr ⟨hhead, hunblocked, hT _ _ a hi hhead,
        unblocked_of_subset ih hunblocked,
        Instance.supported_iff.2 fun b hb => ih (hpositive b hb)⟩)

end Grounding

section Statements

variable {program : List Clause} {given all : List GroundAtom} {statements : List Statement}
  {N : Set GroundAtom} (hprogram : Consists program given statements)
  (hN : ∀ a, a ∈ N ↔ Derives program N a)
  (hall : ∀ s ∈ statements, ∀ v i a, s.clause.Grounds v i → i.head = some a →
    (∀ b ∈ i.positive, b ∈ all) → a ∈ all)
  (hgiven : ∀ a ∈ given, a ∈ all) {bound : Nat} (hbound : all.length ≤ bound)

include hprogram hN hall hgiven hbound

theorem brackets_blocks : Brackets given statements [] N
    (groundBlocks bound (Statement.blocks statements) (given.foldl .addFact ⟨[], []⟩)) := by
  have hmem (s : Statement) : s ∈ (Statement.blocks statements).flatten ↔ s ∈ statements := by
    rw [List.mem_flatten]
    exact ⟨fun ⟨_, hb, hs⟩ => Statement.mem_of_mem_blocks hb hs, Statement.exists_mem_blocks⟩
  refine Brackets.groundBlocks hprogram hN hall hbound ⟨fun s hs => (hmem s).1 hs, ?_⟩
    Statement.pairwise_blocks (Grounding.nodup_foldl_addFact List.nodup_nil) ?_ ⟨?_, ?_, ?_⟩
  · exact fun s hs hnot => absurd ((hmem s).2 hs) hnot
  · simpa [Grounding.mem_possible_foldl_addFact] using hgiven
  · intro a ha
    have hgiven : a ∈ given := by simpa [Grounding.mem_foldl_addFact] using ha
    obtain ⟨c, hc, hfact⟩ := hprogram.exists_fact a hgiven
    exact (hN a).2 (.rule hc (Clause.grounds_of_fact? hfact fun _ => .infimum) rfl
      (by simp [Instance.Admits]) (by simp))
  · simp [Grounding.mem_possible_foldl_addFact]
  · exact fun s hs hnot => absurd ((hmem s).2 hs) hnot

end Statements

/-- No negated atom of `s` is defined by `t`, unless `s` is a constraint. -/
def Statement.Spares (s t : Statement) : Prop :=
  s.clause.head.isSome → ∀ p ∈ s.clause.negative, t.defines p = false

theorem possible_subset_facts_groundBlocks {program : List Clause} {given : List GroundAtom}
    {statements : List Statement} (hprogram : Consists program given statements)
    {blocks : List (List Statement)} (hblocks : ∀ block ∈ blocks, block ⊆ statements)
    (hwithin : ∀ block ∈ blocks, ∀ s ∈ block, ∀ t ∈ block, s.Spares t)
    (hordered : blocks.Pairwise fun b c => ∀ s ∈ b, ∀ t ∈ c, s.Spares t) (bound : Nat)
    {g : Grounding} (hg : g.possible ⊆ g.facts) :
    (groundBlocks bound blocks g).possible ⊆ (groundBlocks bound blocks g).facts := by
  induction blocks generalizing g with
  | nil => exact hg
  | cons block later ih =>
    rw [List.forall_mem_cons] at hblocks hwithin
    rw [List.pairwise_cons] at hordered
    have hblock : IsBlock block (block ++ later.flatten) :=
      ⟨List.subset_append_left _ _, fun s hs => hprogram.safe s (hblocks.1 hs),
        fun s hs => hprogram.unprimed s (hblocks.1 hs)⟩
    refine ih hblocks.2 hwithin.2 hordered.2
      ((hblock.fires_rounds (bound + 1) g).possible_subset_facts ?_ hg)
    rintro settled i a ⟨s, hs, hsettled, v, hi⟩ ha
    obtain ⟨p, hp, -⟩ := hi.exists_head ha
    have hhead : s.clause.head.isSome := by rw [hp, Option.isSome_some]
    rw [hsettled, Bool.not_eq_true', List.any_eq_false]
    refine fun q hq => List.any_eq_true.not.2 ?_
    rintro ⟨t, ht, hdefines⟩
    have hspares : s.Spares t := by
      rcases List.mem_append.1 ht with ht | ht
      · exact hwithin.1 s hs t ht
      · obtain ⟨c, hc, ht⟩ := List.mem_flatten.1 ht
        exact hordered.1 c hc s hs t ht
    rw [hspares hhead q hq] at hdefines
    cases hdefines

end AnswerSetLearning.Solver
