import AnswerSetLearning.Proofs.Reader.Numbering
import AnswerSetLearning.Proofs.Solver.DefinitePrograms
import AnswerSetLearning.Proofs.Solver.Enumeration
import AnswerSetLearning.Proofs.Solver.NamedTerms

namespace AnswerSetLearning.Solver

/-! ## Literals of atoms -/

namespace GroundAtom

def signedLiteral (a : GroundAtom) : Literal := ⟨a.predicate, a.args.map Term.text⟩

theorem literal_eq_signedLiteral {a : GroundAtom} (h : isConstantName a.predicate = true) :
    a.literal = a.signedLiteral := by
  rw [literal, unsignedName_of_isConstantName h]
  rfl

end GroundAtom

theorem Term.eq_of_map_text_eq {ss ts : List Term} (hss : ∀ s ∈ ss, s.IsNamed)
    (hts : ∀ t ∈ ts, t.IsNamed) (h : ss.map text = ts.map text) : ss = ts := by
  induction ss generalizing ts with
  | nil => exact (List.map_eq_nil_iff.1 h.symm).symm
  | cons s ss ih =>
    obtain ⟨t, ts, rfl, htext, hrest⟩ := List.map_eq_cons_iff.1 h.symm
    obtain ⟨hs, hss⟩ := List.forall_mem_cons.1 hss
    obtain ⟨ht, hts⟩ := List.forall_mem_cons.1 hts
    rw [hs.text_injective ht htext.symm, ih hss hts hrest.symm]

theorem GroundAtom.eq_of_signedLiteral_eq {a b : GroundAtom} (ha : a.Every Term.IsNamed)
    (hb : b.Every Term.IsNamed) (h : a.signedLiteral = b.signedLiteral) : a = b := by
  obtain ⟨p, ss⟩ := a
  obtain ⟨q, ts⟩ := b
  obtain ⟨hname, htexts⟩ := Literal.mk.inj h
  obtain rfl : ss = ts := Term.eq_of_map_text_eq ha hb htexts
  exact congrArg (GroundAtom.mk · ss) hname

/-! ## Programs without signs -/

/-- The predicates of the rules and of the facts are names, with no sign before them. -/
structure ModelQuery.IsUnsigned (q : ModelQuery) (registry : Registry) : Prop where
  head : ∀ r ∈ q.rules, ∀ l ∈ r.head, isConstantName l.predicate = true
  body : ∀ r ∈ q.rules, ∀ negated l, .atom negated l ∈ r.body → isConstantName l.predicate = true
  facts : ∀ l ∈ registry.denote q.facts, isConstantName l.predicate = true

section Programs

variable {clauses : List Clause}

theorem every_derivable {P : Term → Prop} (h : ∀ c ∈ clauses, c.Supplies P) :
    ∀ a ∈ derivable clauses, a.Every P := by
  refine forall_mem_grow (fun known hknown a ha => ?_) _ (by simp)
  obtain ⟨i, hi, ha⟩ := List.mem_filterMap.1 ha
  obtain ⟨c, hc, hi⟩ := List.mem_flatMap.1 hi
  refine (h c hc).head_every (fun as has b hb => ?_) hi ha
  obtain ⟨p, -, rfl⟩ := List.mem_map.1 has
  exact hknown b hb

structure IsUnsigned (clauses : List Clause) : Prop where
  safe : ∀ c ∈ clauses, c.isSafe = true
  supplies : ∀ c ∈ clauses, c.Supplies Term.IsNamed
  head : ∀ c ∈ clauses, ∀ p ∈ c.head, isConstantName p.predicate = true

theorem isUnsigned_of_compileProgram {q : ModelQuery} {registry : Registry}
    (hq : q.IsUnsigned registry)
    (h : compileProgram q.rules [q.facts] registry = .ok clauses) : IsUnsigned clauses := by
  have hsafe := isSafe_of_compileProgram h
  refine ⟨hsafe, supplies_isNamed_of_compileProgram h, fun c hc p hp => ?_⟩
  obtain ⟨ls, hls, hcompile⟩ := compileProgram_eq_ok_iff.1 h
  rw [List.flatMap_singleton] at hls
  obtain ⟨r, hr, cs, hcs, hmem⟩ := ((of_compile hcompile).2 c).1 hc
  rcases Clause.of_ofRule? hcs hmem with ⟨l, ps, p', hl, -, hps, hp', rfl⟩ | ⟨head, hhead, hgrows⟩
  · cases hp
    obtain ⟨ts, hts⟩ := exists_values_of_isSafe (p := p) (hsafe _ hc)
    refine Pattern.isConstantName_of_ofFact? ?_ hps hp' hts
    rcases List.mem_append.1 hr with hr | hr
    · exact hq.head r hr l hl
    · obtain ⟨l', hl', rfl⟩ := List.mem_map.1 hr
      cases hl
      exact hq.facts l ((Registry.mem_of_resolve hls).1 hl')
  · obtain ⟨l, -, hl⟩ := hhead p (hgrows.head.symm.trans hp)
    exact Pattern.isConstantName_of_ofLiteral? hl

namespace IsStable

variable (h : IsUnsigned clauses) {M N : Set GroundAtom}

include h

theorem every_isNamed (hM : IsStable clauses M) {a : GroundAtom} (ha : a ∈ M) :
    a.Every Term.IsNamed :=
  every_derivable h.supplies a (hM.mem_derivable h.safe ha)

theorem literal_eq_signedLiteral (hM : IsStable clauses M) {a : GroundAtom} (ha : a ∈ M) :
    a.literal = a.signedLiteral := by
  refine GroundAtom.literal_eq_signedLiteral ?_
  cases (hM.mem_iff a).1 ha with
  | @rule c v i _ hc hi hhead _ _ =>
    obtain ⟨p, hp, hpa⟩ := hi.exists_head hhead
    rw [← hpa.predicate]
    exact h.head c hc p hp

theorem subset_of_image_subset (hM : IsStable clauses M) (hN : IsStable clauses N)
    (hsubset : GroundAtom.signedLiteral '' M ⊆ GroundAtom.signedLiteral '' N) : M ⊆ N := by
  intro a ha
  obtain ⟨b, hb, hba⟩ := hsubset (Set.mem_image_of_mem _ ha)
  rw [← GroundAtom.eq_of_signedLiteral_eq (hN.every_isNamed h hb) (hM.every_isNamed h ha) hba]
  exact hb

theorem eq_of_image_eq (hM : IsStable clauses M) (hN : IsStable clauses N)
    (heq : GroundAtom.signedLiteral '' M = GroundAtom.signedLiteral '' N) : M = N :=
  Set.Subset.antisymm (subset_of_image_subset h hM hN heq.subset)
    (subset_of_image_subset h hN hM heq.superset)

end IsStable

end Programs

/-! ## Queries -/

/-- The set resolves to the atoms of the model, with their signs. -/
def Shows (r : Registry) (s : LitSet) (M : Set GroundAtom) : Prop :=
  ∃ model : List GroundAtom,
    {a | a ∈ model} = M ∧ r.ResolvesTo s (model.map GroundAtom.signedLiteral)

theorem Shows.denote_eq {r : Registry} {s : LitSet} {M : Set GroundAtom} (h : Shows r s M) :
    r.denote s = GroundAtom.signedLiteral '' M := by
  obtain ⟨model, rfl, h⟩ := h
  obtain ⟨ls, hls, -, hmem⟩ := h.resolve
  ext l
  rw [← Registry.mem_of_resolve hls, hmem, List.mem_map]
  rfl

section Queries

variable {q : ModelQuery} {registry : Registry} {clauses : List Clause}

theorem computeModels_of_ne_nil (h : compileProgram q.rules [q.facts] registry = .ok clauses)
    (hne : stableModels q.limit clauses ≠ []) : computeModels q registry =
      let r := registry.registerSets ((stableModels q.limit clauses).map (·.map GroundAtom.literal))
      (.ok r.1, r.2) := by
  simp only [computeModels_eq, h]

theorem stableModels_eq_allModels {limit : Nat} (h : limit = 0) :
    stableModels limit clauses = allModels clauses := by rw [stableModels_eq_take, if_pos h]

theorem length_stableModels (hsafe : ∀ c ∈ clauses, c.isSafe = true) (limit : Nat) :
    (stableModels limit clauses).length = if limit = 0 then {M | IsStable clauses M}.ncard
      else min limit {M | IsStable clauses M}.ncard := by
  rw [stableModels_eq_take, ncard_isStable hsafe]
  split
  · rfl
  · exact List.length_take

theorem pairwise_stableModels (limit : Nat) (clauses : List Clause) :
    (stableModels limit clauses).Pairwise fun m n => ∃ a, ¬ (a ∈ m ↔ a ∈ n) := by
  rw [stableModels_eq_take]
  split
  · exact pairwise_searchAll _ _ _
  · exact (pairwise_searchAll _ _ _).sublist (List.take_sublist _ _)

theorem stableModels_eq_nil_iff (hsafe : ∀ c ∈ clauses, c.isSafe = true) (limit : Nat) :
    stableModels limit clauses = [] ↔ {M | IsStable clauses M}.ncard = 0 := by
  rw [← List.length_eq_zero_iff, length_stableModels hsafe]
  split <;> omega

theorem computeModels_eq_noModel_iff
    (h : compileProgram q.rules [q.facts] registry = .ok clauses) :
    (computeModels q registry).1 = .error .noModel ↔ {M | IsStable clauses M}.ncard = 0 := by
  rw [← stableModels_eq_nil_iff (isSafe_of_compileProgram h) q.limit]
  constructor
  · intro hnone
    by_contra hnil
    rw [computeModels_of_ne_nil h hnil] at hnone
    cases hnone
  · intro hnil
    simp [computeModels_eq, h, hnil]

theorem forall₂_resolvesTo {registry : Registry} (hr : registry.WellFormed)
    (lss : List (List Literal)) :
    List.Forall₂ (registry.registerSets lss).2.ResolvesTo (registry.registerSets lss).1 lss :=
  (Registry.represents_registerSets hr lss).imp fun _ _ h => h.resolvesTo (hr.registerSets lss)

theorem exists_new_literals {registry : Registry} (hr : registry.WellFormed)
    (lss : List (List Literal)) :
    ∃ new, (registry.registerSets lss).2.literals = registry.literals ++ new ∧ new.Nodup ∧
      ∀ l, l ∈ new ↔ l ∉ registry.literals ∧ ∃ ls ∈ lss, l ∈ ls := by
  obtain ⟨new, hnew⟩ := Registry.growsTo_registerSets registry lss
  have hnodup : (registry.literals ++ new).Nodup := hnew ▸ hr.registerSets lss
  obtain ⟨-, hnodup, hdisjoint⟩ := List.nodup_append'.1 hnodup
  refine ⟨new, hnew.symm, hnodup, fun l => ?_⟩
  have hmem : l ∈ (registry.registerSets lss).2.literals ↔ l ∈ registry.literals ∨
      ∃ ls ∈ lss, l ∈ ls := Registry.mem_literals_registerSets
  rw [← hnew, List.mem_append] at hmem
  exact ⟨fun hl => ⟨fun hold => hdisjoint hold hl,
    (hmem.1 (.inr hl)).resolve_left fun hold => hdisjoint hold hl⟩,
    fun hl => (hmem.2 (.inr hl.2)).resolve_left hl.1⟩

theorem pairwise_of_forall₂ {α β : Type} {R : α → β → Prop} {S : α → α → Prop}
    {T : β → β → Prop} {l : List α} {m : List β} (h : List.Forall₂ R l m) (hm : m.Pairwise T)
    (hST : ∀ a c b d, R a b → b ∈ m → R c d → d ∈ m → T b d → S a c) : l.Pairwise S := by
  induction h with
  | nil => exact .nil
  | @cons a b l m hab hlm ih =>
    obtain ⟨hb, hm⟩ := List.pairwise_cons.1 hm
    refine List.pairwise_cons.2 ⟨fun c hc => ?_, ih hm fun a c b d hab hb hcd hd =>
      hST a c b d hab (List.mem_cons_of_mem _ hb) hcd (List.mem_cons_of_mem _ hd)⟩
    obtain ⟨d, hd, hcd⟩ := exists_of_forall₂ hlm hc
    exact hST a c b d hab List.mem_cons_self hcd (List.mem_cons_of_mem _ hd) (hb d hd)

theorem map_literal_stableModels (hclauses : IsUnsigned clauses) (limit : Nat) :
    (stableModels limit clauses).map (·.map GroundAtom.literal) =
      (stableModels limit clauses).map (·.map GroundAtom.signedLiteral) :=
  List.map_congr_left fun _ hm => List.map_congr_left fun _ ha =>
    (isStable_of_mem_stableModels hclauses.safe hm).literal_eq_signedLiteral hclauses ha

/-- A query without signs returns as many models as there are, or as the limit allows. No model is
returned twice, none is left out without a limit, and what is registered besides is in some
model. -/
theorem computeModels_enumerates (hr : registry.WellFormed) (hq : q.IsUnsigned registry)
    (h : compileProgram q.rules [q.facts] registry = .ok clauses) :
    {M | IsStable clauses M}.Finite ∧
    ((computeModels q registry).1 = .error .noModel ↔ {M | IsStable clauses M}.ncard = 0) ∧
    ({M | IsStable clauses M}.ncard ≠ 0 → ∃ models registry',
      computeModels q registry = (.ok models, registry') ∧
      models.length = (if q.limit = 0 then {M | IsStable clauses M}.ncard
        else min q.limit {M | IsStable clauses M}.ncard) ∧
      models.Pairwise (fun s t => ∃ i, ¬ (i ∈ s ↔ i ∈ t)) ∧
      (∀ s ∈ models, ∃ M, IsStable clauses M ∧ Shows registry' s M) ∧
      (q.limit = 0 → ∀ M, IsStable clauses M → ∃ s ∈ models, Shows registry' s M) ∧
      ∃ new, registry'.literals = registry.literals ++ new ∧ new.Nodup ∧
        ∀ l, l ∈ new ↔ l ∉ registry.literals ∧ ∃ s ∈ models, l ∈ registry'.denote s) := by
  have hclauses := isUnsigned_of_compileProgram hq h
  have hsafe := hclauses.safe
  refine ⟨finite_isStable hsafe, computeModels_eq_noModel_iff h, fun hne => ?_⟩
  have hnil : stableModels q.limit clauses ≠ [] := fun hnil =>
    hne ((stableModels_eq_nil_iff hsafe q.limit).1 hnil)
  let lss := (stableModels q.limit clauses).map (·.map GroundAtom.signedLiteral)
  have hmodels : computeModels q registry =
      (.ok (registry.registerSets lss).1, (registry.registerSets lss).2) := by
    rw [computeModels_of_ne_nil h hnil, map_literal_stableModels hclauses]
  -- Each set that is returned shows the model at its place in the search.
  have hshows : List.Forall₂ (fun s model => Shows (registry.registerSets lss).2 s {a | a ∈ model})
      (registry.registerSets lss).1 (stableModels q.limit clauses) :=
    (List.forall₂_map_right_iff.1 (forall₂_resolvesTo hr lss)).imp fun _ model hs =>
      ⟨model, rfl, hs⟩
  refine ⟨_, _, hmodels, ?_, ?_, fun s hs => ?_, fun hlimit M hM => ?_, ?_⟩
  · exact hshows.length_eq.trans (length_stableModels hsafe q.limit)
  · refine pairwise_of_forall₂ hshows (pairwise_stableModels q.limit clauses) ?_
    rintro s t m n hs hm ht hn ⟨a, ha⟩
    by_contra hsame
    have hdenote : (registry.registerSets lss).2.denote s =
        (registry.registerSets lss).2.denote t := by
      simp only [not_exists, not_not] at hsame
      simp only [Registry.denote, hsame]
    rw [hs.denote_eq, ht.denote_eq] at hdenote
    -- Without signs, a literal shows which atom it comes from.
    have hmn := IsStable.eq_of_image_eq hclauses (isStable_of_mem_stableModels hsafe hm)
      (isStable_of_mem_stableModels hsafe hn) hdenote
    exact ha (Set.ext_iff.1 hmn a)
  · obtain ⟨model, hmodel, hs⟩ := exists_of_forall₂ hshows hs
    exact ⟨_, isStable_of_mem_stableModels hsafe hmodel, hs⟩
  · obtain ⟨model, hmodel, rfl⟩ := (mem_allModels_iff hsafe).2 hM
    rw [← stableModels_eq_allModels hlimit] at hmodel
    exact exists_of_forall₂ hshows.flip hmodel
  · obtain ⟨new, hnew, hnodup, hmem⟩ := exists_new_literals hr lss
    refine ⟨new, hnew, hnodup, fun l => (hmem l).trans (and_congr_right fun _ => ?_)⟩
    constructor
    · rintro ⟨_, hls, hl⟩
      obtain ⟨model, hmodel, rfl⟩ := List.mem_map.1 hls
      obtain ⟨s, hs, hshow⟩ := exists_of_forall₂ hshows.flip hmodel
      have hdenote := Shows.denote_eq hshow
      exact ⟨s, hs, hdenote ▸ List.mem_map.1 hl⟩
    · rintro ⟨s, hs, hl⟩
      obtain ⟨model, hmodel, hshow⟩ := exists_of_forall₂ hshows hs
      rw [hshow.denote_eq] at hl
      exact ⟨_, List.mem_map_of_mem hmodel, List.mem_map.2 hl⟩

end Queries

def alternatives : List Rule :=
  [⟨some ⟨"p", ["X"]⟩, [.atom false ⟨"r", ["X"]⟩, .atom true ⟨"q", ["X"]⟩]⟩,
    ⟨some ⟨"q", ["X"]⟩, [.atom false ⟨"r", ["X"]⟩, .atom true ⟨"p", ["X"]⟩]⟩]

theorem alternatives_two_models :
    let registry : Registry := ⟨[⟨"r", ["a"]⟩]⟩
    ∃ clauses, compileProgram alternatives [⟨[1]⟩] registry = .ok clauses ∧
      {M | IsStable clauses M}.ncard = 2 ∧
      computeModels ⟨alternatives, ⟨[1]⟩, 0⟩ registry =
        (.ok [⟨[1, 2]⟩, ⟨[1, 3]⟩], ⟨[⟨"r", ["a"]⟩, ⟨"p", ["a"]⟩, ⟨"q", ["a"]⟩]⟩) ∧
      ∀ s ∈ [⟨[1, 2]⟩, ⟨[1, 3]⟩], ∃ M, IsStable clauses M ∧
        Shows ⟨[⟨"r", ["a"]⟩, ⟨"p", ["a"]⟩, ⟨"q", ["a"]⟩]⟩ s M := by
  intro registry
  have hmodels : computeModels ⟨alternatives, ⟨[1]⟩, 0⟩ registry =
      (.ok [⟨[1, 2]⟩, ⟨[1, 3]⟩], ⟨[⟨"r", ["a"]⟩, ⟨"p", ["a"]⟩, ⟨"q", ["a"]⟩]⟩) := by cbv
  have hclauses : ∃ clauses, compileProgram alternatives [⟨[1]⟩] registry = .ok clauses := ⟨_, rfl⟩
  obtain ⟨clauses, hclauses⟩ := hclauses
  have hunsigned : ModelQuery.IsUnsigned ⟨alternatives, ⟨[1]⟩, 0⟩ registry := by
    refine ⟨by decide, fun r hr negated l hl => ?_, ?_⟩
    · fin_cases hr <;> fin_cases hl <;> decide
    · rintro l ⟨i, hi, hl⟩
      cases List.mem_singleton.1 hi
      cases hl
      decide
  obtain ⟨-, hnone, hsome⟩ := computeModels_enumerates
    (q := ⟨alternatives, ⟨[1]⟩, 0⟩) (List.nodup_singleton _) hunsigned hclauses
  have hne : {M | IsStable clauses M}.ncard ≠ 0 := fun h => by
    have herror := hnone.2 h
    rw [hmodels] at herror
    cases herror
  obtain ⟨models, registry', heq, hlength, -, hshows, -⟩ := hsome hne
  cases hmodels.symm.trans heq
  exact ⟨clauses, hclauses, hlength.symm, hmodels, hshows⟩

/-- The fact `-p` is returned as `p`, which is in no model. -/
theorem opposite_returned_without_sign :
    let registry : Registry := ⟨[⟨"-p", []⟩]⟩
    ∃ clauses s registry', compileProgram [] [⟨[1]⟩] registry = .ok clauses ∧
      computeModels ⟨[], ⟨[1]⟩, 0⟩ registry = (.ok [s], registry') ∧
      ¬ ∃ M, IsStable clauses M ∧ registry'.denote s = GroundAtom.signedLiteral '' M := by
  intro registry
  have hclauses : compileProgram [] [⟨[1]⟩] registry = .ok [factClause ⟨"-p", []⟩] := by
    decide +kernel
  have hmodels : computeModels ⟨[], ⟨[1]⟩, 0⟩ registry =
      (.ok [⟨[2]⟩], ⟨[⟨"-p", []⟩, ⟨"p", []⟩]⟩) := by decide +kernel
  refine ⟨_, _, _, hclauses, hmodels, ?_⟩
  rintro ⟨M, hM, hdenote⟩
  have hp : (⟨"p", []⟩ : Literal) ∈ GroundAtom.signedLiteral '' M := hdenote ▸ ⟨2, by decide, rfl⟩
  obtain ⟨a, ha, hliteral⟩ := hp
  obtain ⟨p, hp, hpa⟩ : ∃ p : Pattern, p = ⟨"-p", []⟩ ∧ p.predicate = a.predicate := by
    cases (hM.mem_iff a).1 ha with
    | rule hc hi hhead _ _ =>
      cases List.mem_singleton.1 hc
      obtain ⟨p, hp, hpa⟩ := hi.exists_head hhead
      exact ⟨p, (Option.some.inj hp).symm, hpa.predicate⟩
  have hname : a.predicate = "p" := congrArg Literal.predicate hliteral
  rw [hp, hname] at hpa
  exact absurd hpa (by decide)

end AnswerSetLearning.Solver
