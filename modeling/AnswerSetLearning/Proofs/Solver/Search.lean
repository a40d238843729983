import AnswerSetLearning.Proofs.Solver.LeastModels

namespace AnswerSetLearning.Solver

theorem isOpen_decided_iff {insts : List Instance} {chosen rejected : List GroundAtom} :
    isOpen insts chosen rejected [] = true ↔
      (∀ a ∈ chosen, a ∈ leastModel insts chosen) ∧
        (∀ a ∈ rejected, a ∉ leastModel insts chosen) ∧
          violates insts (leastModel insts chosen) (leastModel insts chosen) = false ∧
            isConsistent (leastModel insts chosen) = true := by
  simp [isOpen, and_assoc]

section Safe

variable {clauses : List Clause} (hsafe : ∀ c ∈ clauses, c.isSafe = true)
  {chosen rejected : List GroundAtom}

include hsafe

theorem leastModel_subset_derivable :
    leastModel (possibleInstances clauses) chosen ⊆ derivable clauses := by
  refine forall_mem_grow (P := (· ∈ derivable clauses)) (fun known _ a ha => ?_) _ (by simp)
  obtain ⟨i, hi, -, ha⟩ := mem_consequences_iff.1 ha
  exact head_mem_derivable hsafe (List.mem_of_mem_filter hi) ha

theorem mem_possibleInstances {c : Clause} (hc : c ∈ clauses) {v : Valuation} {i : Instance}
    (hi : c.Grounds v i) {m : List GroundAtom} (hm : m ⊆ derivable clauses)
    (hpositive : ∀ a ∈ i.positive, a ∈ m) : i ∈ possibleInstances clauses :=
  (mem_instances_iff hsafe).2 ⟨fun a ha => hm (hpositive a ha), c, hc, v, hi⟩

section Decided

variable (hdecided : ∀ a ∈ negatedAtoms (possibleInstances clauses) (derivable clauses),
    a ∈ chosen ∨ a ∈ rejected)
  (hopen : isOpen (possibleInstances clauses) chosen rejected [] = true)

include hdecided hopen

theorem unblocked_chosen_iff {i : Instance} (hi : i ∈ possibleInstances clauses) :
    i.unblocked chosen = true ↔
      i.Admits {a | a ∈ leastModel (possibleInstances clauses) chosen} := by
  obtain ⟨hchosen, hrejected, -, -⟩ := isOpen_decided_iff.1 hopen
  rw [Instance.unblocked_iff]
  constructor
  · intro h n hn a ha
    by_contra hforbids
    have hnegated : a ∈ negatedAtoms (possibleInstances clauses) (derivable clauses) :=
      List.mem_filter.2 ⟨leastModel_subset_derivable hsafe ha,
        List.any_eq_true.2 ⟨i, hi, List.any_eq_true.2 ⟨n, hn, by simpa using hforbids⟩⟩⟩
    rcases hdecided a hnegated with hin | hout
    · exact hforbids (h n hn a hin)
    · exact hrejected a hout ha
  · exact fun h n hn a ha => h n hn a (hchosen a ha)

theorem mem_leastModel_iff (a : GroundAtom) : a ∈ leastModel (possibleInstances clauses) chosen ↔
    Derives clauses {b | b ∈ leastModel (possibleInstances clauses) chosen} a := by
  constructor
  · refine forall_mem_grow (fun known hknown b hb => ?_) _ (by simp) a
    obtain ⟨i, hi, hpositive, hb⟩ := mem_consequences_iff.1 hb
    obtain ⟨hi, hunblocked⟩ := List.mem_filter.1 hi
    obtain ⟨-, c, hc, v, hv⟩ := (mem_instances_iff hsafe).1 hi
    exact .rule hc hv hb ((unblocked_chosen_iff hsafe hdecided hopen hi).1 hunblocked)
      fun d hd => hknown d (hpositive d hd)
  · intro h
    induction h with
    | rule hc hv ha hadmits _ ih =>
      have hi := mem_possibleInstances hsafe hc hv (leastModel_subset_derivable hsafe) ih
      have hunblocked := (unblocked_chosen_iff hsafe hdecided hopen hi).2 hadmits
      exact consequences_subset_leastModel _ _
        (mem_consequences_iff.2 ⟨_, List.mem_filter.2 ⟨hi, hunblocked⟩, ih, ha⟩)

theorem isStable_leastModel :
    IsStable clauses {a | a ∈ leastModel (possibleInstances clauses) chosen} := by
  obtain ⟨-, -, hviolates, hconsistent⟩ := isOpen_decided_iff.1 hopen
  refine ⟨mem_leastModel_iff hsafe hdecided hopen, fun c hc v i hv hhead hadmits => ?_,
    fun a ha => by simpa using List.all_eq_true.1 hconsistent a ha⟩
  by_contra hall
  have hsupported : ∀ a ∈ i.positive, a ∈ leastModel (possibleInstances clauses) chosen := by
    simpa using hall
  have hi := mem_possibleInstances hsafe hc hv (leastModel_subset_derivable hsafe) hsupported
  apply List.any_eq_false.1 hviolates i hi
  simp [hhead, Instance.supported_iff.2 hsupported, Instance.unblocked_iff.2 hadmits]

end Decided

theorem isStable_of_mem_stableModels {limit : Nat} {m : List GroundAtom}
    (hm : m ∈ stableModels limit clauses) : IsStable clauses {a | a ∈ m} := by
  obtain ⟨chosen, rejected, hdecided, hopen, rfl⟩ := exists_decided_of_mem_search hm
  exact isStable_leastModel hsafe (fun a ha => hdecided a (.inr (.inr ha))) hopen

end Safe

end AnswerSetLearning.Solver
