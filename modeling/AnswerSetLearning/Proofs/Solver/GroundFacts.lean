import AnswerSetLearning.Proofs.Solver.Arrangement
import AnswerSetLearning.Proofs.Solver.Projections

namespace AnswerSetLearning.Solver

structure Clause.IsRead (c : Clause) : Prop where
  safe : c.isSafe = true
  head : ∀ p, c.head = some p → isPredicateName p.predicate = true ∧ p.IsUnprimed
  body : ∀ o ∈ c.atoms, isConstantName o.atom.predicate = true ∧ ∀ t ∈ o.atom.terms, t.IsPlain

theorem slash_not_mem_of_isConstantName {s : String} (h : isConstantName s = true) :
    '/' ∉ s.toList := fun hmem => by
  rw [isConstantName, Bool.and_eq_true] at h
  have hslash := FactToken.isNameChar_of_isNameOf
    (fun _ => FactToken.isNameChar_of_isLowerLetter) h.1 '/' hmem
  cases hslash

theorem slash_not_mem_of_isPredicateName {s : String} (h : isPredicateName s = true) :
    '/' ∉ s.toList := by
  have hunsigned := slash_not_mem_of_isConstantName h
  unfold unsignedName at hunsigned
  split at hunsigned
  · next cs hs =>
    rw [hs]
    simpa using hunsigned
  · exact hunsigned

theorem Clause.IsRead.isNamed {c : Clause} (h : c.IsRead) : c.IsNamed where
  head p hp := slash_not_mem_of_isPredicateName (h.head p hp).1
  body o ho := ⟨slash_not_mem_of_isConstantName (h.body o ho).1, (h.body o ho).2⟩

theorem Pattern.vars_projected (p : Pattern) : p.projected.vars = p.vars := by
  rw [vars, projected, List.filterMap_filter, vars]
  exact List.filterMap_congr fun a _ => by cases a <;> rfl

theorem Pattern.isUnprimed_generic (p : Pattern) : p.generic.IsUnprimed := by
  rintro x hx y rfl
  obtain ⟨arg, harg, hvar⟩ := List.mem_filterMap.1 hx
  obtain ⟨⟨a, i⟩, -, rfl⟩ := List.mem_map.1 harg
  cases a with
  | var z =>
    have htext : (intText i).toList = '/' :: y.toList := by
      rw [Option.some.inj hvar, String.toList_append]
      rfl
    rw [intText_natCast, Nat.repr_eq_ofList_toDigits, String.toList_ofList] at htext
    have hdigit := isAsciiDigit_of_mem_toDigits (htext ▸ List.mem_cons_self)
    cases hdigit
  | _ => cases hvar

theorem Clause.vars_replace (c : Clause) (o : Occurrence) :
    (c.replace o).atom.vars = o.atom.vars := by
  unfold replace
  split_ifs
  · exact o.atom.vars_projected
  · rfl

theorem Clause.mem_projected_atoms {c : Clause} {o : Occurrence} :
    o ∈ c.projected.atoms ↔ ∃ o' ∈ c.atoms, c.replace o' = o := List.mem_map

theorem Clause.isSafe_projected {c : Clause} (h : c.isSafe = true) : c.projected.isSafe = true := by
  have hbound (x : String) (hx : x ∈ c.boundVars) : x ∈ c.projected.boundVars := by
    refine mem_boundVars_iff.2 ((mem_boundVars_iff.1 hx).imp_left ?_)
    rintro ⟨p, hp, hx⟩
    exact ⟨(c.replace ⟨false, p⟩).atom, mem_projected_atoms.2 ⟨_, hp, c.replace_eq _⟩,
      by rwa [c.vars_replace]⟩
  have hbinds (a : Arg) (ha : c.binds a = true) : c.projected.binds a = true := by
    cases a with
    | var x => exact List.contains_iff_mem.2 (hbound x (List.contains_iff_mem.1 ha))
    | _ => exact ha
  obtain ⟨hhead, hnegative, htests⟩ := isSafe_iff.1 h
  refine isSafe_iff.2 ⟨fun p hp a ha => hbinds a (hhead p hp a ha), fun p hp x hx => hbound x ?_,
    fun t ht => ⟨hbinds _ (htests t ht).1, hbinds _ (htests t ht).2⟩⟩
  obtain ⟨⟨negated, q⟩, hq, hreplace⟩ := mem_projected_atoms.1 hp
  have hnegated := c.replace_negated ⟨negated, q⟩
  have hvars := c.vars_replace ⟨negated, q⟩
  rw [hreplace] at hnegated hvars
  cases hnegated
  exact hnegative q hq x (hvars ▸ hx)

theorem Pattern.isSafe_projection (p : Pattern) : p.projection.isSafe = true := by
  refine Clause.isSafe_iff.2 ⟨fun q hq a ha => ?_, fun q hq => ?_, fun t ht => ?_⟩
  · cases hq
    obtain ⟨ha, hvar⟩ := List.mem_filter.1 ha
    cases a with
    | var x =>
      refine List.contains_iff_mem.2 (Clause.mem_boundVars_iff.2 (.inl ⟨p.generic, ?_, ?_⟩))
      · exact List.mem_singleton_self _
      · exact List.mem_filterMap.2 ⟨_, ha, rfl⟩
    | _ => cases hvar
  · simp [projection] at hq
  · cases ht

theorem Clause.projected_eq_of_fact? {c : Clause} {a : GroundAtom} (h : c.fact? = some a) :
    c.projected = c := by
  obtain ⟨hatoms, -⟩ := exists_of_fact? h
  obtain ⟨head, atoms, tests⟩ := c
  cases hatoms
  rfl

def conditional (clauses : List Clause) : List Clause :=
  (withProjections (clauses.filter (·.fact?.isNone))).map Clause.arranged

def arrangedProgram (clauses : List Clause) : List Clause :=
  clauses.filter (·.fact?.isSome) ++ conditional clauses

theorem exists_mem_ofClauses_iff {clauses : List Clause} {c : Clause} :
    (∃ s ∈ Statement.ofClauses clauses, s.clause = c) ↔ c ∈ clauses := by
  constructor
  · rintro ⟨s, hs, rfl⟩
    obtain ⟨⟨c, i⟩, hc, rfl⟩ := List.mem_map.1 hs
    exact List.fst_mem_of_mem_zipIdx hc
  · intro hc
    obtain ⟨i, hi, rfl⟩ := List.mem_iff_getElem.1 hc
    exact ⟨⟨i, clauses[i]⟩, List.mem_map.2
      ⟨(clauses[i], i), List.mem_zipIdx_iff_getElem?.2 (List.getElem?_eq_getElem hi), rfl⟩, rfl⟩

section Program

variable {clauses : List Clause} (hread : ∀ c ∈ clauses, c.IsRead)

include hread

theorem isSafe_of_mem_withProjections {c : Clause} (hc : c ∈ withProjections clauses) :
    c.isSafe = true := by
  obtain ⟨d, hd, rfl | ⟨o, -, -, rfl⟩⟩ := mem_withProjections_iff.1 hc
  · exact Clause.isSafe_projected (hread d hd).safe
  · exact o.atom.isSafe_projection

theorem isUnprimed_of_mem_withProjections {c : Clause} (hc : c ∈ withProjections clauses)
    {p : Pattern} (hp : c.head = some p) : p.IsUnprimed := by
  obtain ⟨d, hd, rfl | ⟨o, -, -, rfl⟩⟩ := mem_withProjections_iff.1 hc
  · exact ((hread d hd).head p hp).2
  · cases hp
    intro x hx
    rw [Pattern.vars_projected] at hx
    exact o.atom.isUnprimed_generic x hx

theorem of_mem_conditional {c : Clause} (hc : c ∈ conditional clauses) :
    ∃ d ∈ withProjections clauses, d.isSafe = true ∧ d.arranged = c := by
  obtain ⟨d, hd, rfl⟩ := List.mem_map.1 hc
  have hmem : d ∈ withProjections clauses := by
    obtain ⟨e, he, h⟩ := mem_withProjections_iff.1 hd
    exact mem_withProjections_iff.2 ⟨e, (List.mem_filter.1 he).1, h⟩
  exact ⟨d, hmem, isSafe_of_mem_withProjections hread hmem, rfl⟩

theorem consists_arrangedProgram : Consists (arrangedProgram clauses)
    (clauses.filterMap Clause.fact?) (Statement.ofClauses (conditional clauses)) := by
  have hclause {s : Statement} (hs : s ∈ Statement.ofClauses (conditional clauses)) :
      s.clause ∈ conditional clauses := exists_mem_ofClauses_iff.1 ⟨s, hs, rfl⟩
  refine ⟨fun c hc => ?_, fun a ha => ?_, fun s hs => List.mem_append_right _ (hclause hs),
    fun s hs => ?_, fun s hs p hp => ?_⟩
  · rcases List.mem_append.1 hc with hc | hc
    · obtain ⟨hc, hsome⟩ := List.mem_filter.1 hc
      obtain ⟨a, ha⟩ := Option.isSome_iff_exists.1 hsome
      exact .inl ⟨a, List.mem_filterMap.2 ⟨c, hc, ha⟩, ha⟩
    · exact .inr (exists_mem_ofClauses_iff.2 hc)
  · obtain ⟨c, hc, ha⟩ := List.mem_filterMap.1 ha
    exact ⟨c, List.mem_append_left _ (List.mem_filter.2 ⟨hc, by rw [ha, Option.isSome_some]⟩), ha⟩
  · obtain ⟨d, -, hsafe, hd⟩ := of_mem_conditional hread (hclause hs)
    exact hd ▸ Clause.isSafe_arranged hsafe
  · obtain ⟨d, hd, -, hds⟩ := of_mem_conditional hread (hclause hs)
    rw [← hds] at hp
    exact isUnprimed_of_mem_withProjections hread hd hp

theorem derives_arrangedProgram_iff {N : Set GroundAtom} {a : GroundAtom} :
    Derives (arrangedProgram clauses) N a ↔ Derives (withProjections clauses) N a := by
  constructor
  · refine fun h => h.mono fun c hc v T a ha => ?_
    rcases List.mem_append.1 hc with hc | hc
    · obtain ⟨hc, hsome⟩ := List.mem_filter.1 hc
      obtain ⟨b, hb⟩ := Option.isSome_iff_exists.1 hsome
      have hprojected := Clause.projected_eq_of_fact? hb
      exact ⟨c, mem_withProjections_iff.2 ⟨c, hc, .inl hprojected⟩, v, ha⟩
    · obtain ⟨d, hd, hsafe, rfl⟩ := of_mem_conditional hread hc
      exact ⟨d, hd, v, (Clause.yields_arranged hsafe).1 ha⟩
  · refine fun h => h.mono fun c hc v T a ha => ?_
    have hsafe := isSafe_of_mem_withProjections hread hc
    obtain ⟨d, hd, h⟩ := mem_withProjections_iff.1 hc
    cases hfact : d.fact? with
    | none =>
      have hmem : c ∈ withProjections (clauses.filter (·.fact?.isNone)) :=
        mem_withProjections_iff.2 ⟨d, List.mem_filter.2 ⟨hd, by rw [hfact, Option.isNone_none]⟩, h⟩
      exact ⟨c.arranged, List.mem_append_right _ (List.mem_map_of_mem hmem), v,
        (Clause.yields_arranged hsafe).2 ha⟩
    | some b =>
      rcases h with rfl | ⟨o, ho, -⟩
      · rw [Clause.projected_eq_of_fact? hfact] at ha
        have hsome : d.fact?.isSome = true := by rw [hfact, Option.isSome_some]
        exact ⟨d, List.mem_append_left _ (List.mem_filter.2 ⟨hd, hsome⟩), v, ha⟩
      · rw [(Clause.exists_of_fact? hfact).1] at ho
        cases ho

variable {M : Set GroundAtom} (hM : ∀ a, a ∈ M ↔ Derives clauses M a) {a : GroundAtom}

include hM in
theorem mem_withProjected_iff_derives : a ∈ withProjected clauses M ↔
    Derives (arrangedProgram clauses) (withProjected clauses M) a :=
  (mem_withProjected_iff (fun c hc => (hread c hc).isNamed) hM).trans
    (derives_arrangedProgram_iff hread).symm

abbrev headAtoms (clauses : List Clause) : List GroundAtom :=
  heads (values (withProjections clauses)) (withProjections clauses)

theorem mem_headAtoms {s : Statement} (hs : s ∈ Statement.ofClauses (conditional clauses))
    {v : Valuation} {i : Instance} (hi : s.clause.Grounds v i) (ha : i.head = some a)
    (hpositive : ∀ b ∈ i.positive, b ∈ headAtoms clauses) : a ∈ headAtoms clauses := by
  obtain ⟨d, hd, hsafe, hds⟩ :=
    of_mem_conditional hread (exists_mem_ofClauses_iff.1 ⟨s, hs, rfl⟩)
  rw [← hds] at hi
  have hhead : d.arranged.head = d.head := rfl
  have htests : d.arranged.tests = d.tests := rfl
  exact mem_heads hd hhead htests (Clause.isSafe_arranged hsafe) hi hpositive ha

theorem given_mem_headAtoms (ha : a ∈ clauses.filterMap Clause.fact?) : a ∈ headAtoms clauses := by
  obtain ⟨c, hc, hfact⟩ := List.mem_filterMap.1 ha
  have hmem : c ∈ withProjections clauses :=
    mem_withProjections_iff.2 ⟨c, hc, .inl (Clause.projected_eq_of_fact? hfact)⟩
  exact mem_heads hmem rfl rfl (hread c hc).safe
    (Clause.grounds_of_fact? hfact fun _ => .infimum) (by simp) rfl

include hM

/-- What grounding finds before it leaves the atoms of projections out. -/
theorem brackets_ground : Brackets (clauses.filterMap Clause.fact?)
    (Statement.ofClauses (conditional clauses)) [] (withProjected clauses M)
    (groundBlocks (headCount (withProjections clauses))
      (Statement.blocks (Statement.ofClauses (conditional clauses)))
      ((clauses.filterMap Clause.fact?).foldl .addFact ⟨[], []⟩)) :=
  brackets_blocks (consists_arrangedProgram hread) (fun _ => mem_withProjected_iff_derives hread hM)
    (fun _ hs _ _ _ => mem_headAtoms hread hs) (fun _ => given_mem_headAtoms hread)
    (length_heads _).le

theorem mem_of_mem_facts_ground (ha : a ∈ (ground clauses).facts) : a ∈ M := by
  obtain ⟨ha, hshown⟩ := List.mem_filter.1 ha
  exact mem_of_mem_withProjected ((brackets_ground hread hM).facts a ha)
    (slash_not_mem_of_isPredicateName hshown)

end Program

end AnswerSetLearning.Solver
