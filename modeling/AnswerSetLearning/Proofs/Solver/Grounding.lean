import AnswerSetLearning.Proofs.Solver.Components
import AnswerSetLearning.Proofs.Solver.Instances
import AnswerSetLearning.Proofs.Solver.Models

namespace AnswerSetLearning.Solver

variable {P : Term → Prop}

structure Grounding.Every (P : Term → Prop) (g : Grounding) : Prop where
  possible : ∀ a ∈ g.possible, a.Every P
  facts : ∀ a ∈ g.facts, a.Every P

namespace Grounding

variable {g : Grounding}

theorem Every.fire (h : g.Every P) (settled : Bool) {i : Instance}
    (hi : ∀ a, i.head = some a → a.Every P) : (fire settled g i).Every P where
  possible a ha := (mem_possible_fire.1 ha).elim (h.possible a) fun ha => hi a ha.1
  facts a ha := (mem_facts_fire.1 ha).elim (h.facts a) fun ha => hi a ha.1

theorem Every.keeps {p : Pass} (hp : p.statement.clause.Supplies P) : p.Keeps (Every P) := by
  intro old new g hknown h
  have hcandidates : ∀ as ∈ p.ages.map (Age.select old new), ∀ a ∈ as, a.Every P := by
    intro as has a ha
    obtain ⟨age, -, rfl⟩ := List.mem_map.1 has
    exact h.possible a (hknown (Age.select_subset old new age ha))
  exact List.foldlRecOn (motive := Every P) _ _ h
    fun _ hg i hi => hg.fire _ fun _ ha => hp.head_every hcandidates hi ha

theorem Every.groundBlocks (bound : Nat) {blocks : List (List Statement)}
    (hblocks : ∀ block ∈ blocks, ∀ s ∈ block, s.clause.Supplies P) (h : g.Every P) :
    (groundBlocks bound blocks g).Every P := by
  refine Pass.keeps_groundBlocks bound (fun block hblock s hs pending p hp => ?_) h
  obtain ⟨ages, -, rfl⟩ := List.mem_map.1 hp
  exact keeps (hblocks block hblock s hs)

end Grounding

theorem Pattern.terms_projected (p : Pattern) : p.projected.terms = [] := by
  refine List.filterMap_eq_nil_iff.2 fun a ha => ?_
  obtain ⟨-, ha⟩ := List.mem_filter.1 ha
  cases a with
  | var x => rfl
  | value t => cases ha
  | anonymous => cases ha

theorem mem_withProjections_iff {clauses : List Clause} {c : Clause} :
    c ∈ withProjections clauses ↔
      ∃ d ∈ clauses, d.projected = c ∨
        ∃ o ∈ d.atoms, d.projects o = true ∧ o.atom.projection = c := by
  simp only [withProjections, List.mem_append, List.mem_map, List.mem_eraseDups, List.mem_flatMap,
    Clause.projections, List.mem_filter, and_assoc]
  grind

theorem supplies_withProjections {clauses : List Clause} (h : ∀ c ∈ clauses, c.Supplies P) :
    ∀ c ∈ withProjections clauses, c.Supplies P := by
  intro c hc
  obtain ⟨c', hc', rfl | ⟨o, -, -, rfl⟩⟩ := mem_withProjections_iff.1 hc
  · exact Clause.supplies_of_eq (h c' hc') rfl rfl
  · constructor
    · rintro p hp t ht
      cases hp
      rw [Pattern.terms_projected] at ht
      cases ht
    · intro x ns hx
      have hranges : o.atom.projection.ranges = [] := by
        simp [Clause.ranges, Pattern.projection, rangesOf, Bounds.ofInequalities, Bounds.tighten]
      rw [hranges] at hx
      cases hx

theorem every_facts_ground {clauses : List Clause} (h : ∀ c ∈ clauses, c.Supplies P) :
    ∀ a ∈ (ground clauses).facts, a.Every P ∧ isPredicateName a.predicate = true := by
  have hfact : ∀ a ∈ clauses.filterMap Clause.fact?, a.Every P := by
    intro a ha
    obtain ⟨c, hc, ha⟩ := List.mem_filterMap.1 ha
    unfold Clause.fact? at ha
    split at ha
    · obtain ⟨p, hp, ha⟩ := Option.bind_eq_some_iff.1 ha
      exact Pattern.eval?_every (by simp [Subst.Every]) ((h c hc).head p hp) ha
    · cases ha
  have hgiven : ((clauses.filterMap Clause.fact?).foldl .addFact ⟨[], []⟩ : Grounding).Every P :=
    ⟨by simpa [Grounding.mem_possible_foldl_addFact] using hfact,
      by simpa [Grounding.mem_foldl_addFact] using hfact⟩
  intro a ha
  obtain ⟨ha, hshown⟩ := List.mem_filter.1 ha
  refine ⟨?_, hshown⟩
  refine (Grounding.Every.groundBlocks _ ?_ hgiven).facts a ha
  intro block hblock s hs
  obtain ⟨⟨c, i⟩, hc, rfl⟩ := List.mem_map.1 (Statement.mem_of_mem_blocks hblock hs)
  obtain ⟨c', hc', rfl⟩ := List.mem_map.1 (List.fst_mem_of_mem_zipIdx hc)
  refine Clause.supplies_of_eq (supplies_withProjections (fun c hc => ?_) c' hc') rfl rfl
  exact h c (List.mem_filter.1 hc).1

end AnswerSetLearning.Solver
