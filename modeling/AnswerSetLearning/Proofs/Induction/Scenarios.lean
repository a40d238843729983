import AnswerSetLearning.Proofs.Induction.Agreement
import AnswerSetLearning.Proofs.Reader.Recognition
import AnswerSetLearning.Proofs.Solver.Plain

namespace AnswerSetLearning

open Solver

/-! ## Facts of the solver -/

structure Solver.GroundAtom.IsPlain (a : GroundAtom) : Prop where
  terms : a.Every Term.IsPlain
  predicate : isPredicateName a.predicate = true

theorem Solver.GroundAtom.IsPlain.literal_of_groundAtom? {a b : GroundAtom} (h : a.IsPlain)
    (hb : a.literal.groundAtom? = some b) : b.literal = a.literal := by
  rw [h.terms.groundAtom?_literal] at hb
  cases hb
  simp [GroundAtom.literal, unsignedName_of_isConstantName h.predicate]

/-- The solver takes the literal for the atom. It writes it in another way only if a number is too
large, and takes what it writes for the same atom. -/
structure Literal.TakenFor (l : Literal) (a : GroundAtom) : Prop where
  groundAtom : l.groundAtom? = some a
  literal : l.NumbersFit → a.literal = l
  groundAtom_literal : a.literal.groundAtom? = some a

theorem Literal.takenFor_of_ofLiteral? {l : Literal} (hl : l.WellSpelled) {p : Pattern}
    {ts : List Term} (hp : Pattern.ofLiteral? l = some p) (hts : p.args = ts.map .value) :
    l.TakenFor ⟨p.predicate, ts⟩ := by
  refine ⟨groundAtom?_of_ofLiteral? hl hp hts,
    fun hfits => (literal_of_ofLiteral? hl hfits hp hts).1, ?_⟩
  have hplain : GroundAtom.Every Term.IsPlain ⟨p.predicate, ts⟩ := by
    intro t ht
    refine Pattern.isPlain_of_ofLiteral? hp t (List.mem_filterMap.2 ⟨.value t, ?_, rfl⟩)
    exact hts ▸ List.mem_map_of_mem ht
  rw [hplain.groundAtom?_literal,
    unsignedName_of_isConstantName (Pattern.isConstantName_of_ofLiteral? hp)]

section Facts

variable {rules : List Rule} {registry : Registry} {a b : LitSet} {ls : List Literal}

theorem supplies_of_compileProgram {facts : List LitSet} {clauses : List Clause}
    (hrules : ∀ r ∈ rules, ∀ l, r.head = some l → l.WellSpelled)
    (hfacts : ∀ s ∈ facts, ∀ l ∈ registry.denote s, l.WellSpelled)
    (h : compileProgram rules facts registry = .ok clauses) :
    ∀ c ∈ clauses, c.Supplies Term.IsPlain := by
  obtain ⟨ls, hls, hcompile⟩ := compileProgram_eq_ok_iff.1 h
  intro c hc
  obtain ⟨r, hr, cs, hcs, hc⟩ := ((of_compile hcompile).2 c).1 hc
  refine Clause.supplies_of_ofRule? hcs (fun l hl => ?_) hc
  rcases List.mem_append.1 hr with hr | hr
  · exact hrules r hr l hl
  · obtain ⟨m, hm, rfl⟩ := List.mem_map.1 hr
    cases hl
    obtain ⟨i, hi, hl⟩ := (Registry.mem_of_resolve (s := ⟨_⟩) hls).1 hm
    obtain ⟨s, hs, hi⟩ := List.mem_flatMap.1 hi
    exact hfacts s hs l ⟨i, hi, hl⟩

theorem exists_of_mem_groundFacts (hrules : ∀ r ∈ rules, ∀ l, r.head = some l → l.WellSpelled)
    (hfacts : ∀ s ∈ [a, b], ∀ l ∈ registry.denote s, l.WellSpelled)
    (h : groundFacts rules a b registry = .ok ls) {l : Literal} (hl : l ∈ ls) :
    ∃ atom : GroundAtom, atom.IsPlain ∧ atom.literal = l := by
  obtain ⟨clauses, hclauses, rfl⟩ := exists_of_groundFacts h
  obtain ⟨atom, hatom, rfl⟩ := List.mem_map.1 hl
  obtain ⟨hterms, hname⟩ :=
    every_facts_ground (supplies_of_compileProgram hrules hfacts hclauses) atom hatom
  exact ⟨atom, ⟨hterms, hname⟩, rfl⟩

theorem exists_groundAtom_of_groundFacts (h : groundFacts rules a b registry = .ok ls)
    {s : LitSet} (hs : s ∈ [a, b]) {l : Literal} (hl : l ∈ registry.denote s)
    (hspelled : l.WellSpelled) :
    ∃ atom, l.TakenFor atom ∧ atom.literal ∈ ls := by
  obtain ⟨rules', hprogram, hfound⟩ := Engine.groundFacts_eq_ok_iff.1 h
  obtain ⟨clauses, hcompile, rfl⟩ := Engine.builtIn_facts_eq_ok_iff.1 hfound
  have hmem := factRule_mem_program hprogram hs hl
  obtain ⟨p, ts, hc, hp, hts⟩ := exists_factClause_of_mem hspelled hmem hcompile
  have hname : isPredicateName p.predicate = true := by
    have hname := Pattern.isConstantName_of_ofLiteral? hp
    rw [isPredicateName, unsignedName_of_isConstantName hname, hname]
  exact ⟨_, Literal.takenFor_of_ofLiteral? hspelled hp hts,
    List.mem_map_of_mem (mem_facts_ground hc (eval?_of_args hts) hname)⟩

end Facts

section Derivation

variable {rules : List Rule} {scenarios : List (LitSet × LitSet)} {registry registry' : Registry}
  {lits : List Lit}

theorem exists_groundAtom_of_mem_derivedFrom (hr : registry.WellFormed)
    (hrules : ∀ r ∈ rules, ∀ l, r.head = some l → l.WellSpelled)
    (hscenarios : ∀ p ∈ scenarios, ∀ s ∈ [p.1, p.2], registry.Registers s ∧
      ∀ l ∈ registry.denote s, l.WellSpelled)
    (h : derivedFrom rules scenarios registry = (.ok lits, registry')) :
    ∀ i ∈ lits, ∃ atom : GroundAtom, atom.IsPlain ∧ registry'.get? i = some atom.literal := by
  induction scenarios generalizing registry lits with
  | nil =>
    cases h
    simp
  | cons p scenarios ih =>
    obtain ⟨literals, more, hliterals, hmore, rfl⟩ := exists_of_derivedFrom_cons h
    have hext := Registry.registerAll_extends registry literals
    intro i hi
    rcases List.mem_append.1 hi with hi | hi
    · obtain ⟨l, hl, hget⟩ := (Registry.mem_registerAll_iff hr).1 hi
      obtain ⟨atom, hatom, rfl⟩ := exists_of_mem_groundFacts hrules
        (fun s hs => (hscenarios p List.mem_cons_self s hs).2) hliterals hl
      exact ⟨atom, hatom, derivedFrom_extends hmore hget⟩
    · refine ih (hr.registerAll literals) (fun q hq s hs => ?_) hmore i hi
      obtain ⟨hregisters, hspelled⟩ := hscenarios q (List.mem_cons_of_mem p hq) s hs
      rw [Registry.denote_of_extends hregisters hext]
      exact ⟨hregisters.mono hext, hspelled⟩

theorem exists_mem_derivedFrom (hr : registry.WellFormed)
    (hscenarios : ∀ p ∈ scenarios, ∀ s ∈ [p.1, p.2], registry.Registers s ∧
      ∀ l ∈ registry.denote s, l.WellSpelled)
    (h : derivedFrom rules scenarios registry = (.ok lits, registry')) {p : LitSet × LitSet}
    (hp : p ∈ scenarios) {s : LitSet} (hs : s ∈ [p.1, p.2]) {l : Literal}
    (hl : l ∈ registry.denote s) :
    ∃ atom, l.TakenFor atom ∧ ∃ i ∈ lits, registry'.get? i = some atom.literal := by
  induction scenarios generalizing registry lits with
  | nil => cases hp
  | cons q scenarios ih =>
    obtain ⟨literals, more, hliterals, hmore, rfl⟩ := exists_of_derivedFrom_cons h
    have hext := Registry.registerAll_extends registry literals
    rcases List.mem_cons.1 hp with rfl | hp
    · have hspelled := (hscenarios p List.mem_cons_self s hs).2 l hl
      obtain ⟨atom, htaken, hmem⟩ := exists_groundAtom_of_groundFacts hliterals hs hl hspelled
      obtain ⟨i, hi⟩ := Registry.exists_get?_registerAll (r := registry) hmem
      refine ⟨atom, htaken, i, List.mem_append_left _ ?_, derivedFrom_extends hmore hi⟩
      exact (Registry.mem_registerAll_iff hr).2 ⟨_, hmem, hi⟩
    · obtain ⟨i, hi, hget⟩ := hl
      obtain ⟨atom, htaken, j, hj, hatom⟩ := ih (hr.registerAll literals)
        (fun q' hq' s hs => by
          obtain ⟨hregisters, hspelled⟩ := hscenarios q' (List.mem_cons_of_mem q hq') s hs
          rw [Registry.denote_of_extends hregisters hext]
          exact ⟨hregisters.mono hext, hspelled⟩) hmore hp ⟨i, hi, hext hget⟩
      exact ⟨atom, htaken, j, List.mem_append_right _ hj, hatom⟩

end Derivation

/-! ## The universe -/

section Universe

variable {text : String} {t : Task} {univ : LitSet} {registry : Registry}

theorem Task.WellFormed.scenarios (ht : t.WellFormed) :
    ∀ p ∈ t.scenarios, ∀ s ∈ [p.1, p.2], t.registry.Registers s ∧
      ∀ l ∈ t.registry.denote s, l.WellSpelled := by
  intro p hp s hs
  obtain ⟨e, he, hp⟩ := List.mem_flatMap.1 hp
  obtain ⟨o, ho, rfl⟩ := List.mem_map.1 hp
  constructor
  · rcases List.mem_cons.1 hs with rfl | hs
    · exact (ht.examples e he).registers_input
    · exact List.mem_singleton.1 hs ▸ (ht.examples e he).registers_outputs o ho
  · rintro l ⟨i, -, hl⟩
    exact ht.literals l (Registry.mem_literals_iff.2 ⟨i, hl⟩)

theorem exists_groundAtom_of_mem_universe (hparse : parseTask text = .ok t)
    (h : computeUniverse t = (.ok univ, registry)) {l : Literal} (hl : l ∈ registry.denote univ) :
    ∃ atom : GroundAtom, atom.IsPlain ∧ atom.literal = l := by
  have ht := wellFormed_of_parseTask hparse
  obtain ⟨lits, hlits, rfl⟩ := exists_of_computeUniverse h
  obtain ⟨i, hi, hl⟩ := hl
  obtain ⟨atom, hatom, hget⟩ := exists_groundAtom_of_mem_derivedFrom ht.registry
    (fun r hr l hl => wellSpelled_head_of_parseTask hparse hr hl) ht.scenarios hlits i
    (SortedSet.mem_ofList.1 hi)
  exact ⟨atom, hatom, Option.some.inj (hget.symm.trans hl)⟩

theorem exists_mem_universe (ht : t.WellFormed) (h : computeUniverse t = (.ok univ, registry))
    {e : Example} (he : e ∈ t.examples) {s o : LitSet} (ho : o ∈ e.outputs)
    (hs : s = e.input ∨ s = o) {l : Literal} (hl : l ∈ t.registry.denote s) :
    ∃ atom, l.TakenFor atom ∧ atom.literal ∈ registry.denote univ := by
  obtain ⟨lits, hlits, rfl⟩ := exists_of_computeUniverse h
  have hscenario : (e.input, o) ∈ t.scenarios :=
    List.mem_flatMap.2 ⟨e, he, List.mem_map_of_mem ho⟩
  obtain ⟨atom, htaken, i, hi, hget⟩ :=
    exists_mem_derivedFrom ht.registry ht.scenarios hlits hscenario (s := s) (by simpa using hs) hl
  exact ⟨atom, htaken, i, SortedSet.mem_ofList.2 hi, hget⟩

theorem mem_universe_iff (hparse : parseTask text = .ok t)
    (h : computeUniverse t = (.ok univ, registry)) {e : Example} (he : e ∈ t.examples)
    {s o : LitSet} (ho : o ∈ e.outputs) (hs : s = e.input ∨ s = o) {l : Literal}
    (hl : l ∈ t.registry.denote s) : l ∈ registry.denote univ ↔ l.NumbersFit := by
  constructor
  · intro hmem
    obtain ⟨atom, hatom, rfl⟩ := exists_groundAtom_of_mem_universe hparse h hmem
    exact hatom.terms.numbersFit_literal
  · intro hfits
    obtain ⟨atom, htaken, hmem⟩ :=
      exists_mem_universe (wellFormed_of_parseTask hparse) h he ho hs hl
    exact htaken.literal hfits ▸ hmem

theorem mem_universe_of_mem_scenario (hparse : parseTask text = .ok t)
    (h : computeUniverse t = (.ok univ, registry)) {e : Example} (he : e ∈ t.examples)
    {s : LitSet} (hs : s ∈ e.outputs) {i : Lit} (hi : i ∈ e.input ∨ i ∈ s) :
    ∃ l, registry.get? i = some l ∧ (i ∈ univ ↔ l.NumbersFit) := by
  have ht := wellFormed_of_parseTask hparse
  have hregistered := ht.examples e he
  have hmember : ∃ s', (s' = e.input ∨ s' = s) ∧ i ∈ s' ∧ t.registry.Registers s' := by
    rcases hi with hi | hi
    · exact ⟨_, .inl rfl, hi, hregistered.registers_input⟩
    · exact ⟨_, .inr rfl, hi, hregistered.registers_outputs s hs⟩
  obtain ⟨s', hs', hi, hregisters⟩ := hmember
  obtain ⟨l, hl⟩ := hregisters i hi
  have hget := computeUniverse_extends h hl
  refine ⟨l, hget, ?_⟩
  rw [← Registry.mem_denote_iff (wellFormed_computeUniverse ht.registry h) hget]
  exact mem_universe_iff hparse h he hs hs' ⟨i, hi, hl⟩

section Positive

variable (hparse : parseTask text = .ok t) (h : computeUniverse t = (.ok univ, registry))
  {e : Example} (he : e ∈ t.examples) {s : LitSet} (hs : s ∈ e.outputs) {registry' : Registry}
  (hext : registry.Extends registry') (hr : registry'.WellFormed) {p : TrainingExample}
  (hp : e.MakesPositive registry' univ s p)

include hparse h he hs hext hp

theorem mem_incl_iff {l : Literal} : l ∈ p.incl ↔ l ∈ t.registry.denote s := by
  have hregisters := ((wellFormed_of_parseTask hparse).examples e he).registers_outputs s hs
  rw [Registry.mem_of_resolve (accepts_of_makesPositive hp).2.incl,
    Registry.denote_of_extends hregisters ((computeUniverse_extends h).trans hext)]

include hr

theorem mem_excl_iff {l : Literal} : l ∈ p.excl ↔ l ∈ registry.denote univ ∧ l ∉ p.incl := by
  have ht := wellFormed_of_parseTask hparse
  have hregistered := ht.examples e he
  rw [Registry.mem_of_resolve (accepts_of_makesPositive hp).2.excl,
    mem_incl_iff hparse h he hs hext hp,
    Registry.denote_diff hr (normal_computeUniverse h) (hregistered.outputs s hs),
    Registry.denote_of_extends (registers_computeUniverse ht.registry h) hext,
    Registry.denote_of_extends (hregistered.registers_outputs s hs)
      ((computeUniverse_extends h).trans hext)]
  rfl

theorem splits_universe_iff :
    (∀ l, l ∈ p.incl ∨ l ∈ p.excl ↔ l ∈ registry'.denote univ) ↔
      ∀ l ∈ p.incl, l.NumbersFit := by
  have ht := wellFormed_of_parseTask hparse
  have hfits (l : Literal) (hl : l ∈ p.incl) : l ∈ registry.denote univ ↔ l.NumbersFit :=
    mem_universe_iff hparse h he hs (.inr rfl) ((mem_incl_iff hparse h he hs hext hp).1 hl)
  rw [Registry.denote_of_extends (registers_computeUniverse ht.registry h) hext]
  constructor
  · exact fun hunion l hl => (hfits l hl).1 ((hunion l).1 (.inl hl))
  · intro hall l
    rw [mem_excl_iff hparse h he hs hext hr hp]
    by_cases hl : l ∈ p.incl
    · simp [hl, (hfits l hl).2 (hall l hl)]
    · simp [hl]

theorem excludes_no_included_iff :
    (∀ l ∈ p.incl, ∀ l' ∈ p.excl, ∀ a, l.groundAtom? = some a → l'.groundAtom? ≠ some a) ↔
      ∀ l ∈ p.incl, ∀ a, l.groundAtom? = some a → a.literal ∈ p.incl := by
  have hexcl {l : Literal} := mem_excl_iff hparse h he hs hext hr hp (l := l)
  constructor
  · intro happart l hl a ha
    obtain ⟨b, htaken, hmem⟩ := exists_mem_universe (wellFormed_of_parseTask hparse) h he hs
      (.inr rfl) ((mem_incl_iff hparse h he hs hext hp).1 hl)
    cases ha.symm.trans htaken.groundAtom
    by_contra hnot
    exact happart l hl a.literal (hexcl.2 ⟨hmem, hnot⟩) a ha htaken.groundAtom_literal
  · intro hall l hl l' hl' a ha ha'
    obtain ⟨hmem, hnot⟩ := hexcl.1 hl'
    obtain ⟨b, hb, rfl⟩ := exists_groundAtom_of_mem_universe hparse h hmem
    exact hnot (hb.literal_of_groundAtom? ha' ▸ hall l hl a ha)

end Positive

/-- Input and outputs of an example are in the universe, except for literals with numbers that are
too large. Inclusions and exclusions of a positive example are disjoint. They make up the universe
exactly if all numbers of the output fit, and exclude no atom that they include exactly if the
output has with each literal also the one that the solver takes it for. -/
theorem scenario_in_universe_iff (hparse : parseTask text = .ok t)
    (h : computeUniverse t = (.ok univ, registry)) {e : Example} (he : e ∈ t.examples)
    {s : LitSet} (hs : s ∈ e.outputs) :
    (∀ i, i ∈ e.input ∨ i ∈ s → ∃ l, registry.get? i = some l ∧ (i ∈ univ ↔ l.NumbersFit)) ∧
      ∀ registry', registry.Extends registry' → registry'.WellFormed →
        ∀ p, e.MakesPositive registry' univ s p →
          (∀ l ∈ p.incl, l ∉ p.excl) ∧
          ((∀ l, l ∈ p.incl ∨ l ∈ p.excl ↔ l ∈ registry'.denote univ) ↔
            ∀ l ∈ p.incl, l.NumbersFit) ∧
          ((∀ l ∈ p.incl, ∀ l' ∈ p.excl, ∀ a, l.groundAtom? = some a → l'.groundAtom? ≠ some a) ↔
            ∀ l ∈ p.incl, ∀ a, l.groundAtom? = some a → a.literal ∈ p.incl) := by
  refine ⟨fun i hi => mem_universe_of_mem_scenario hparse h he hs hi, ?_⟩
  intro registry' hext hr p hp
  refine ⟨fun l hl hl' => ?_, splits_universe_iff hparse h he hs hext hr hp,
    excludes_no_included_iff hparse h he hs hext hr hp⟩
  exact ((mem_excl_iff hparse h he hs hext hr hp).1 hl').2 hl

theorem computeUniverse_of_derivedFrom (t : Task) (lits : List Lit) (univ : LitSet)
    (registry : Registry)
    (h : derivedFrom t.background t.scenarios t.registry = (.ok lits, registry))
    (huniv : .ofList lits = univ) : computeUniverse t = (.ok univ, registry) := by
  simp only [Engine.computeUniverse, h, huniv]

def largestNumber : Task where
  registry := ⟨[⟨"q", ["2147483647"]⟩, ⟨"p", ["1"]⟩]⟩
  background := []
  examples := [⟨⟨[2]⟩, [⟨[1]⟩]⟩]

theorem largestNumber_in_universe :
    ∃ univ registry, computeUniverse largestNumber = (.ok univ, registry) ∧
      ∀ e ∈ largestNumber.examples, ∀ s ∈ e.outputs, ∀ i, i ∈ e.input ∨ i ∈ s → i ∈ univ := by
  have hparse : parseTask "I: p(1)\nO: \x7bq(2147483647)\x7d\n" = .ok largestNumber := by cbv
  have huniv := computeUniverse_of_derivedFrom largestNumber [2, 1] ⟨[1, 2]⟩
    largestNumber.registry (by decide +kernel) (by cbv)
  have hfits : ∀ l ∈ largestNumber.registry.literals, l.NumbersFit := by
    simp [largestNumber, Literal.NumbersFit, digitsValue]
  refine ⟨_, _, huniv, fun e he s hs i hi => ?_⟩
  obtain ⟨l, hl, hmem⟩ := (scenario_in_universe_iff hparse huniv he hs).1 i hi
  exact hmem.2 (hfits l (Registry.mem_literals_iff.2 ⟨i, hl⟩))

def wrappedNumber : Task where
  registry := ⟨[⟨"p", ["4294967297"]⟩]⟩
  background := []
  examples := [⟨⟨[1]⟩, [⟨[1]⟩]⟩]

/-- Neither input nor output is in the universe, and the positive example excludes the very atom
that it includes. -/
theorem wrappedNumber_not_in_universe :
    ∃ t univ registry, parseTask "I: p(4294967297)\nO: \x7bp(4294967297)\x7d\n" = .ok t ∧
      computeUniverse t = (.ok univ, registry) ∧
      ∃ e ∈ t.examples, ∃ s ∈ e.outputs, (∃ i ∈ e.input, i ∉ univ) ∧ (∃ i ∈ s, i ∉ univ) ∧
        ∃ p, e.MakesPositive registry univ s p ∧ (∃ l ∈ p.incl, l ∉ registry.denote univ) ∧
          ∃ l ∈ p.incl, ∃ l' ∈ p.excl, ∃ a, l.groundAtom? = some a ∧ l'.groundAtom? = some a := by
  have hparse : parseTask "I: p(4294967297)\nO: \x7bp(4294967297)\x7d\n" = .ok wrappedNumber := by
    cbv
  have huniv := computeUniverse_of_derivedFrom wrappedNumber [2] ⟨[2]⟩
    ⟨[⟨"p", ["4294967297"]⟩, ⟨"p", ["1"]⟩]⟩ (by decide +kernel) (by cbv)
  refine ⟨_, _, _, hparse, huniv, _, List.mem_singleton_self _, _, List.mem_singleton_self _,
    ⟨1, by decide, by decide⟩, ⟨1, by decide, by decide⟩,
    ⟨[⟨"p", ["4294967297"]⟩], [⟨"p", ["1"]⟩], [⟨"p", ["4294967297"]⟩]⟩, ?_, ?_, ?_⟩
  · exact ⟨List.mem_singleton_self _, _, rfl, positive_mem_acceptOutput_iff.2 ⟨rfl, rfl, rfl⟩⟩
  · exact ⟨_, List.mem_singleton_self _, by decide⟩
  · exact ⟨_, List.mem_singleton_self _, _, List.mem_singleton_self _, ⟨"p", [.number 1]⟩,
      by decide +kernel, by decide +kernel⟩

end Universe

end AnswerSetLearning
