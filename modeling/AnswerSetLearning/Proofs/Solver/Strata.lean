import AnswerSetLearning.Proofs.Solver.GroundFacts

/-! In a stratified program no predicate depends on itself through a negated atom. There is one set
of atoms that follow, level by level, and grounding finds all of them as facts: what a negated atom
depends on has been grounded when the atom is looked at. So the order of the clauses does not
matter. -/

namespace AnswerSetLearning.Solver

def GroundAtom.signature (a : GroundAtom) : Signature := ⟨a.predicate, a.args.length⟩

theorem Pattern.Matches.signature_eq {p : Pattern} {v : Valuation} {a : GroundAtom}
    (h : p.Matches v a) : p.signature = a.signature := by
  rw [Pattern.signature, GroundAtom.signature, h.predicate, h.args.length_eq]

theorem Pattern.signature_generic (p : Pattern) : p.generic.signature = p.signature := by
  simp [signature, generic]

def Clause.Climbs (level : Signature → Nat) (c : Clause) : Prop :=
  ∀ p, c.head = some p → ∀ o ∈ c.atoms,
    level o.atom.signature + o.negated.toNat ≤ level p.signature

theorem Clause.IsDefinite.climbs {c : Clause} (h : c.IsDefinite) : c.Climbs fun _ => 0 := by
  intro p _ o ho
  have hnegated : o.negated = false := by
    by_contra hne
    have hmem : o.atom ∈ c.negative :=
      mem_negative_iff.2 (by rwa [← Bool.eq_true_of_not_eq_false hne])
    rw [h] at hmem
    cases hmem
  simp [hnegated]

section Follows

variable {level : Signature → Nat} {clauses : List Clause} {F G : Set GroundAtom}
  {a : GroundAtom}

/-- The atom follows when negated atoms are looked up among those of lower levels that follow. -/
def Follows (level : Signature → Nat) (clauses : List Clause) (a : GroundAtom) : Prop :=
  Derives clauses
    {b | ∃ _ : level b.signature < level a.signature, Follows level clauses b} a
termination_by level a.signature

variable (hlevel : ∀ c ∈ clauses, c.Climbs level)

include hlevel

theorem Derives.of_lower (h : Derives clauses F a)
    (hlower : ∀ b ∈ G, level b.signature < level a.signature → b ∈ F) : Derives clauses G a := by
  induction h with
  | @rule c v i a hc hi ha hadmits _ ih =>
    obtain ⟨p, hp, hpa⟩ := hi.exists_head ha
    have hclimbs := hlevel c hc p hp
    rw [hpa.signature_eq] at hclimbs
    refine .rule hc hi ha (hi.admits_iff.2 fun q hq b hb hqb => ?_) fun b hb => ?_
    · have hlt := hclimbs _ (Clause.mem_negative_iff.1 hq)
      rw [hqb.signature_eq] at hlt
      exact hi.admits_iff.1 hadmits q hq b (hlower b hb hlt) hqb
    · obtain ⟨q, hq, hqb⟩ := exists_of_forall₂ hi.positive.flip hb
      have hle := hclimbs _ (Clause.mem_positive_iff.1 hq)
      rw [hqb.signature_eq] at hle
      exact ih b hb fun d hd hlt => hlower d hd (hlt.trans_le hle)

theorem follows_iff : Follows level clauses a ↔
    Derives clauses {b | Follows level clauses b} a := by
  rw [Follows]
  exact ⟨fun h => h.of_lower hlevel fun b hb hlt => ⟨hlt, hb⟩,
    fun h => h.of_lower hlevel fun b hb _ => hb.2⟩

end Follows

theorem Statement.signature_of_defines {t : Statement} {p : Pattern} (h : t.defines p = true) :
    ∃ q, t.clause.head = some q ∧ q.signature = p.signature := by
  obtain ⟨q, hq, hunifies⟩ := (Option.any_eq_true _ _).1 h
  rw [Pattern.unifies, Bool.and_eq_true, decide_eq_true_iff] at hunifies
  exact ⟨q, hq, hunifies.1⟩

/-- The atoms of the clause count for the given signature: that of the head, or that of the pattern
whose projection the clause states. -/
inductive CountsFor (clauses : List Clause) : Clause → Signature → Prop
  | head {d : Clause} {p : Pattern} : d ∈ clauses → d.head = some p →
      CountsFor clauses d.projected.arranged p.signature
  | projection {d : Clause} {o : Occurrence} : d ∈ clauses → o ∈ d.atoms → d.projects o = true →
      CountsFor clauses o.atom.projection.arranged o.atom.signature

section Program

variable {clauses : List Clause} (hread : ∀ c ∈ clauses, c.IsRead)

include hread

theorem exists_countsFor {c : Clause} (hc : c ∈ conditional clauses) {q : Pattern}
    (hq : c.head = some q) : ∃ σ, CountsFor clauses c σ := by
  obtain ⟨d, hd, -, rfl⟩ := of_mem_conditional hread hc
  obtain ⟨e, he, rfl | ⟨o, ho, hprojects, rfl⟩⟩ := mem_withProjections_iff.1 hd
  · exact ⟨_, .head he hq⟩
  · exact ⟨_, .projection he ho hprojects⟩

theorem countsFor_of_signature_eq {c : Clause} (hc : c ∈ conditional clauses) {p q : Pattern}
    (hp : p.IsNamed) (hq : c.head = some q) (h : q.signature = p.signature) :
    CountsFor clauses c p.signature := by
  obtain ⟨d, hd, -, rfl⟩ := of_mem_conditional hread hc
  obtain ⟨e, he, rfl | ⟨o, ho, hprojects, rfl⟩⟩ := mem_withProjections_iff.1 hd
  · exact h ▸ .head he hq
  · cases hq
    have hname : o.atom.generic.projected.predicate = p.predicate := congrArg Signature.name h
    have hslash := o.atom.generic.slash_mem_projected
    rw [hname] at hslash
    exact absurd hslash hp.predicate

theorem countsFor_of_signature_projected_eq {c : Clause} (hc : c ∈ conditional clauses)
    {p q : Pattern} (hp : p.IsNamed) (hq : c.head = some q)
    (h : q.signature = p.projected.signature) : CountsFor clauses c p.signature := by
  have hname : q.predicate = p.projected.predicate := congrArg Signature.name h
  obtain ⟨d, hd, -, rfl⟩ := of_mem_conditional hread hc
  obtain ⟨e, he, rfl | ⟨o, ho, hprojects, rfl⟩⟩ := mem_withProjections_iff.1 hd
  · have hslash := p.slash_mem_projected
    rw [← hname] at hslash
    exact absurd hslash ((hread e he).isNamed.head q hq)
  · cases hq
    rw [Pattern.generic_projected_predicate] at hname
    obtain ⟨hpredicate, halike⟩ :=
      Pattern.alike_of_projected_predicate_eq ((hread e he).isNamed.body o ho) hp hname
    have hsignature : o.atom.signature = p.signature := by
      rw [Pattern.signature, Pattern.signature, hpredicate, halike.length_eq]
    exact hsignature ▸ .projection he ho hprojects

variable {level : Signature → Nat} (hlevel : ∀ c ∈ clauses, c.Climbs level)

include hlevel

theorem CountsFor.exists_lower {c c' : Clause} {σ : Signature} (h : CountsFor clauses c σ)
    {o : Occurrence} (ho : o ∈ c.atoms) (hc' : c' ∈ conditional clauses) {q : Pattern}
    (hq : c'.head = some q) (hsignature : q.signature = o.atom.signature) :
    ∃ τ, CountsFor clauses c' τ ∧ level τ + o.negated.toNat ≤ level σ := by
  cases h with
  | @head d p hd hp =>
    rw [Clause.mem_arranged_atoms (Clause.isSafe_projected (hread d hd).safe)] at ho
    obtain ⟨o', ho', rfl⟩ := Clause.mem_projected_atoms.1 ho
    have hnamed := (hread d hd).isNamed.body o' ho'
    refine ⟨o'.atom.signature, ?_, d.replace_negated o' ▸ hlevel d hd p hp o' ho'⟩
    unfold Clause.replace at hsignature
    split_ifs at hsignature
    · exact countsFor_of_signature_projected_eq hread hc' hnamed hq hsignature
    · exact countsFor_of_signature_eq hread hc' hnamed hq hsignature
  | @projection d o' hd ho' hprojects =>
    rw [Clause.mem_arranged_atoms o'.atom.isSafe_projection] at ho
    cases List.mem_singleton.1 ho
    have hnamed := ((hread d hd).isNamed.body o' ho').generic
    have hcounts := countsFor_of_signature_eq hread hc' hnamed hq hsignature
    rw [Pattern.signature_generic] at hcounts
    exact ⟨_, hcounts, le_rfl⟩

section Cycles

variable {s t : Statement} (hs : s ∈ Statement.ofClauses (conditional clauses))

include hs

theorem CountsFor.exists_of_leads {σ : Signature} (h : CountsFor clauses s.clause σ)
    (hst : Leads (Statement.dependencies (Statement.ofClauses (conditional clauses))) s t) :
    t ∈ Statement.ofClauses (conditional clauses) ∧
      ∃ τ, CountsFor clauses t.clause τ ∧ level τ ≤ level σ := by
  induction hst with
  | refl => exact ⟨hs, σ, h, le_rfl⟩
  | tail _ ht ih =>
    obtain ⟨hu, τ, hτ, hle⟩ := ih
    obtain ⟨ht, o, ho, hdefines⟩ := (Statement.mem_dependencies_iff hu).1 ht
    obtain ⟨q, hq, hsignature⟩ := Statement.signature_of_defines hdefines
    obtain ⟨ρ, hρ, hlower⟩ := hτ.exists_lower hread hlevel ho
      (exists_mem_ofClauses_iff.1 ⟨_, ht, rfl⟩) hq hsignature
    exact ⟨ht, ρ, hρ, (Nat.le_of_add_right_le hlower).trans hle⟩

/-- No cycle passes a negated atom, since the levels would go down along it without end. -/
theorem not_leads_of_defines {p : Pattern} (hp : p ∈ s.clause.negative)
    (hhead : s.clause.head.isSome)
    (ht : t ∈ Statement.ofClauses (conditional clauses)) (hdefines : t.defines p = true) :
    ¬ Leads (Statement.dependencies (Statement.ofClauses (conditional clauses))) t s := by
  intro hleads
  obtain ⟨r, hr⟩ := Option.isSome_iff_exists.1 hhead
  obtain ⟨σ, hσ⟩ := exists_countsFor hread (exists_mem_ofClauses_iff.1 ⟨s, hs, rfl⟩) hr
  obtain ⟨q, hq, hsignature⟩ := Statement.signature_of_defines hdefines
  induction hn : level σ using Nat.strong_induction_on generalizing σ with
  | _ n ih =>
    subst hn
    obtain ⟨τ, hτ, hlower⟩ := hσ.exists_lower hread hlevel (Clause.mem_negative_iff.1 hp)
      (exists_mem_ofClauses_iff.1 ⟨t, ht, rfl⟩) hq hsignature
    obtain ⟨-, ρ, hρ, hle⟩ := hτ.exists_of_leads hread hlevel ht hleads
    exact ih (level ρ) (hle.trans_lt hlower) ρ hρ rfl

end Cycles

theorem spares_blocks :
    (∀ block ∈ Statement.blocks (Statement.ofClauses (conditional clauses)),
      ∀ s ∈ block, ∀ t ∈ block, s.Spares t) ∧
    (Statement.blocks (Statement.ofClauses (conditional clauses))).Pairwise
      fun b c => ∀ s ∈ b, ∀ t ∈ c, s.Spares t := by
  constructor
  · intro block hblock s hs t ht hhead p hp
    by_contra hdefines
    exact not_leads_of_defines hread hlevel (Statement.mem_of_mem_blocks hblock hs) hp hhead
      (Statement.mem_of_mem_blocks hblock ht) (by simpa using hdefines)
      (Statement.leads_of_mem_blocks hblock ht hs)
  · refine Statement.pairwise_blocks_leads.imp_of_mem fun hb hc h s hs t ht hhead p hp => ?_
    by_contra hdefines
    have hdefines : t.defines p = true := by simpa using hdefines
    have hs' := Statement.mem_of_mem_blocks hb hs
    have ht' := Statement.mem_of_mem_blocks hc ht
    have hdepends := (Statement.mem_dependencies_iff hs').2
      ⟨ht', _, Clause.mem_negative_iff.1 hp, hdefines⟩
    exact not_leads_of_defines hread hlevel hs' hp hhead ht' hdefines (h s hs t ht hdepends)

theorem mem_facts_ground_of_mem {M : Set GroundAtom} (hM : ∀ a, a ∈ M ↔ Derives clauses M a)
    {a : GroundAtom} (ha : a ∈ M) : a ∈ (ground clauses).facts := by
  have hshown : isPredicateName a.predicate = true := by
    cases (hM a).1 ha with
    | rule hc hi hhead _ _ =>
      obtain ⟨p, hp, hpa⟩ := hi.exists_head hhead
      exact hpa.predicate ▸ ((hread _ hc).head p hp).1
  have hconsists := consists_arrangedProgram hread
  have hpossible := (brackets_ground hread hM).mem_possible hconsists
    (fun _ => mem_withProjected_iff_derives hread hM) (by simp [Final]) (.inl ha)
  obtain ⟨hwithin, hordered⟩ := spares_blocks hread hlevel
  refine List.mem_filter.2 ⟨possible_subset_facts_groundBlocks hconsists
    (fun _ hblock _ hs => Statement.mem_of_mem_blocks hblock hs) hwithin hordered _ ?_ hpossible,
    hshown⟩
  intro b hb
  simpa [Grounding.mem_foldl_addFact, Grounding.mem_possible_foldl_addFact] using hb

theorem mem_facts_ground_iff_follows {a : GroundAtom} :
    a ∈ (ground clauses).facts ↔ Follows level clauses a :=
  ⟨mem_of_mem_facts_ground hread fun _ => follows_iff hlevel,
    mem_facts_ground_of_mem hread hlevel fun _ => follows_iff hlevel⟩

theorem mem_facts_ground_of_mem_iff {clauses' : List Clause}
    (hclauses : ∀ c, c ∈ clauses' ↔ c ∈ clauses) {a : GroundAtom} :
    a ∈ (ground clauses').facts ↔ a ∈ (ground clauses).facts := by
  have hread' : ∀ c ∈ clauses', c.IsRead := fun c hc => hread c ((hclauses c).1 hc)
  have hlevel' : ∀ c ∈ clauses', c.Climbs level := fun c hc => hlevel c ((hclauses c).1 hc)
  have hM (a : GroundAtom) : Follows level clauses a ↔
      Derives clauses' {b | Follows level clauses b} a :=
    (follows_iff hlevel).trans (derives_of_mem_iff hclauses).symm
  rw [mem_facts_ground_iff_follows hread hlevel]
  exact ⟨mem_of_mem_facts_ground hread' hM, mem_facts_ground_of_mem hread' hlevel' hM⟩

end Program

end AnswerSetLearning.Solver
