import AnswerSetLearning.Proofs.Solver.Search
import Mathlib.Data.Set.Card

namespace AnswerSetLearning.Solver

def searchAll (insts : List Instance) : (chosen rejected undecided : List GroundAtom) →
    List (List GroundAtom)
  | chosen, rejected, [] =>
    if isOpen insts chosen rejected [] then [leastModel insts chosen] else []
  | chosen, rejected, a :: rest =>
    if isOpen insts chosen rejected (a :: rest) then
      searchAll insts (chosen ++ [a]) rejected rest ++
        searchAll insts chosen (rejected ++ [a]) rest
    else []

def allModels (clauses : List Clause) : List (List GroundAtom) :=
  let insts := instances (derivable clauses) clauses
  searchAll insts [] [] (negatedAtoms insts (derivable clauses))

section Limits

variable (insts : List Instance)

theorem search_eq_take (room : Nat) (chosen rejected undecided : List GroundAtom) :
    search insts room chosen rejected undecided =
      (searchAll insts chosen rejected undecided).take room := by
  induction undecided generalizing room chosen rejected with
  | nil =>
    cases room with
    | zero => rfl
    | succ room => rw [search, searchAll]; split <;> simp
  | cons a rest ih =>
    cases room with
    | zero => rfl
    | succ room =>
      rw [search, searchAll]
      split
      · have hroom (n : Nat) : room + 1 - min (room + 1) n = room + 1 - n := by omega
        simp only [List.take_append, ih, List.length_take, hroom]
      · simp

theorem length_searchAll_le (chosen rejected undecided : List GroundAtom) :
    (searchAll insts chosen rejected undecided).length ≤ Nat.pow 2 undecided.length := by
  induction undecided generalizing chosen rejected with
  | nil => rw [searchAll]; split <;> simp
  | cons a rest ih =>
    rw [searchAll]
    split
    · have hpow : Nat.pow 2 (a :: rest).length =
          Nat.pow 2 rest.length + Nat.pow 2 rest.length := by
        simp only [List.length_cons, Nat.pow_eq, Nat.pow_succ]
        omega
      rw [List.length_append, hpow]
      exact Nat.add_le_add (ih _ _) (ih _ _)
    · exact Nat.zero_le _

end Limits

theorem stableModels_eq_take (limit : Nat) (clauses : List Clause) :
    stableModels limit clauses =
      if limit = 0 then allModels clauses else (allModels clauses).take limit := by
  rw [stableModels, search_eq_take]
  split
  · exact List.take_of_length_le (length_searchAll_le _ _ _ _)
  · rfl

section Branches

variable {insts : List Instance} {chosen rejected undecided m : List GroundAtom}

theorem decided_of_mem_searchAll (h : m ∈ searchAll insts chosen rejected undecided) :
    (∀ a ∈ chosen, a ∈ m) ∧ ∀ a ∈ rejected, a ∉ m := by
  induction undecided generalizing chosen rejected with
  | nil =>
    rw [searchAll] at h
    split at h
    · next hopen =>
      obtain ⟨hchosen, hrejected, -⟩ := isOpen_decided_iff.1 hopen
      cases List.mem_singleton.1 h
      exact ⟨hchosen, hrejected⟩
    · cases h
  | cons a rest ih =>
    rw [searchAll] at h
    split at h
    · rcases List.mem_append.1 h with h | h
      · exact ⟨fun b hb => (ih h).1 b (List.mem_append_left _ hb), (ih h).2⟩
      · exact ⟨(ih h).1, fun b hb => (ih h).2 b (List.mem_append_left _ hb)⟩
    · cases h

theorem pairwise_searchAll (chosen rejected undecided : List GroundAtom) :
    (searchAll insts chosen rejected undecided).Pairwise fun m n => ∃ a, ¬ (a ∈ m ↔ a ∈ n) := by
  induction undecided generalizing chosen rejected with
  | nil => rw [searchAll]; split <;> simp
  | cons a rest ih =>
    rw [searchAll]
    split
    · refine List.pairwise_append.2 ⟨ih _ _, ih _ _, fun m hm n hn => ⟨a, fun hiff => ?_⟩⟩
      have ham : a ∈ m := (decided_of_mem_searchAll hm).1 a (by simp)
      exact (decided_of_mem_searchAll hn).2 a (by simp) (hiff.1 ham)
    · exact List.Pairwise.nil

end Branches

section Stable

variable {clauses : List Clause} (hsafe : ∀ c ∈ clauses, c.isSafe = true) {M : Set GroundAtom}
  (hM : IsStable clauses M)

include hsafe hM

theorem IsStable.mem_leastModel {chosen : List GroundAtom} (hchosen : ∀ a ∈ chosen, a ∈ M)
    {a : GroundAtom} (ha : a ∈ M) : a ∈ leastModel (possibleInstances clauses) chosen := by
  induction (hM.mem_iff a).1 ha with
  | rule hc hv hhead hadmits hbody ih =>
    have hpositive := fun b hb => ih b hb ((hM.mem_iff b).2 (hbody b hb))
    have hi := mem_possibleInstances hsafe hc hv (leastModel_subset_derivable hsafe) hpositive
    have hunblocked := Instance.unblocked_iff.2 fun n hn b hb => hadmits n hn b (hchosen b hb)
    exact consequences_subset_leastModel _ _
      (mem_consequences_iff.2 ⟨_, List.mem_filter.2 ⟨hi, hunblocked⟩, hpositive, hhead⟩)

theorem IsStable.mem_derivable {a : GroundAtom} (ha : a ∈ M) : a ∈ derivable clauses :=
  leastModel_subset_derivable hsafe (hM.mem_leastModel hsafe (List.forall_mem_nil _) ha)

theorem IsStable.mem_of_mem_leastModel {assumed : List GroundAtom}
    (hassumed : ∀ a ∈ negatedAtoms (possibleInstances clauses) (derivable clauses), a ∈ M →
      a ∈ assumed) {a : GroundAtom}
    (ha : a ∈ leastModel (possibleInstances clauses) assumed) : a ∈ M := by
  refine forall_mem_grow (P := (· ∈ M)) (fun known hknown b hb => ?_) _ (by simp) a ha
  obtain ⟨i, hi, hpositive, hb⟩ := mem_consequences_iff.1 hb
  obtain ⟨hi, hunblocked⟩ := List.mem_filter.1 hi
  obtain ⟨-, c, hc, v, hv⟩ := (mem_instances_iff hsafe).1 hi
  have hadmits : i.Admits M := by
    intro n hn d hd
    by_contra hforbids
    have hnegated : d ∈ negatedAtoms (possibleInstances clauses) (derivable clauses) :=
      List.mem_filter.2 ⟨hM.mem_derivable hsafe hd,
        List.any_eq_true.2 ⟨i, hi, List.any_eq_true.2 ⟨n, hn, by simpa using hforbids⟩⟩⟩
    exact hforbids (Instance.unblocked_iff.1 hunblocked n hn d (hassumed d hnegated hd))
  exact (hM.mem_iff b).2 (.rule hc hv hb hadmits fun d hd =>
    (hM.mem_iff d).1 (hknown d (hpositive d hd)))

theorem IsStable.isOpen_eq_true {chosen rejected undecided : List GroundAtom}
    (hchosen : ∀ a ∈ chosen, a ∈ M) (hrejected : ∀ a ∈ rejected, a ∉ M)
    (hdecided : ∀ a ∈ negatedAtoms (possibleInstances clauses) (derivable clauses),
      a ∈ chosen ∨ a ∈ rejected ∨ a ∈ undecided) :
    isOpen (possibleInstances clauses) chosen rejected undecided = true := by
  -- The two closures hold the model between them: fewer atoms assumed give more of them derived.
  have hatMost {a : GroundAtom} (ha : a ∈ M) := hM.mem_leastModel hsafe hchosen ha
  have hassumed : ∀ a ∈ negatedAtoms (possibleInstances clauses) (derivable clauses), a ∈ M →
      a ∈ chosen ++ undecided.filter (· ∈ leastModel (possibleInstances clauses) chosen) := by
    intro a hnegated ha
    rcases hdecided a hnegated with h | h | h
    · exact List.mem_append_left _ h
    · exact absurd ha (hrejected a h)
    · exact List.mem_append_right _ (List.mem_filter.2 ⟨h, by simpa using hatMost ha⟩)
  have hatLeast {a : GroundAtom} := hM.mem_of_mem_leastModel hsafe hassumed (a := a)
  have hconsistent : isConsistent (leastModel (possibleInstances clauses)
      (chosen ++ undecided.filter (· ∈ leastModel (possibleInstances clauses) chosen))) = true := by
    refine List.all_eq_true.2 fun a ha => ?_
    simpa using fun hopposite => hM.consistent a (hatLeast ha) (hatLeast hopposite)
  have hviolates : violates (possibleInstances clauses) (leastModel (possibleInstances clauses)
      (chosen ++ undecided.filter (· ∈ leastModel (possibleInstances clauses) chosen)))
      (leastModel (possibleInstances clauses) chosen) = false := by
    refine List.any_eq_false.2 fun i hi hviolated => ?_
    simp only [Bool.and_eq_true, Option.isNone_iff_eq_none, Instance.supported_iff,
      Instance.unblocked_iff] at hviolated
    obtain ⟨⟨hhead, hsupported⟩, hadmits⟩ := hviolated
    obtain ⟨-, c, hc, v, hv⟩ := (mem_instances_iff hsafe).1 hi
    obtain ⟨a, ha, hnot⟩ := hM.constraints c hc v i hv hhead fun n hn a ha =>
      hadmits n hn a (hatMost ha)
    exact hnot (hatLeast (hsupported a ha))
  simp only [isOpen, Bool.and_eq_true, hviolates, hconsistent, Bool.not_false, and_true]
  refine ⟨List.all_eq_true.2 fun a ha => ?_, List.all_eq_true.2 fun a ha => ?_⟩
  · simpa using hatMost (hchosen a ha)
  · simpa using fun h => hrejected a ha (hatLeast h)

theorem IsStable.exists_mem_searchAll {chosen rejected undecided : List GroundAtom}
    (hchosen : ∀ a ∈ chosen, a ∈ M) (hrejected : ∀ a ∈ rejected, a ∉ M)
    (hdecided : ∀ a ∈ negatedAtoms (possibleInstances clauses) (derivable clauses),
      a ∈ chosen ∨ a ∈ rejected ∨ a ∈ undecided) :
    ∃ m ∈ searchAll (possibleInstances clauses) chosen rejected undecided, {a | a ∈ m} = M := by
  induction undecided generalizing chosen rejected with
  | nil =>
    rw [searchAll, if_pos (hM.isOpen_eq_true hsafe hchosen hrejected hdecided)]
    refine ⟨_, List.mem_singleton_self _, Set.ext fun a => ⟨fun ha => ?_, fun ha => ?_⟩⟩
    · refine hM.mem_of_mem_leastModel hsafe (fun b hnegated hb => ?_) ha
      rcases hdecided b hnegated with h | h | h
      · exact h
      · exact absurd hb (hrejected b h)
      · cases h
    · exact hM.mem_leastModel hsafe hchosen ha
  | cons a rest ih =>
    rw [searchAll, if_pos (hM.isOpen_eq_true hsafe hchosen hrejected hdecided)]
    have hmem {b : GroundAtom} {l : List GroundAtom} : b ∈ l ++ [a] ↔ b ∈ l ∨ b = a := by simp
    by_cases ha : a ∈ M
    · have hchosen' : ∀ b ∈ chosen ++ [a], b ∈ M := fun b hb =>
        (hmem.1 hb).elim (hchosen b) fun h => h ▸ ha
      obtain ⟨m, hm, hmM⟩ := ih hchosen' hrejected fun b hb => by grind [hdecided b hb]
      exact ⟨m, List.mem_append_left _ hm, hmM⟩
    · have hrejected' : ∀ b ∈ rejected ++ [a], b ∉ M := fun b hb =>
        (hmem.1 hb).elim (hrejected b) fun h => h ▸ ha
      obtain ⟨m, hm, hmM⟩ := ih hchosen hrejected' fun b hb => by grind [hdecided b hb]
      exact ⟨m, List.mem_append_right _ hm, hmM⟩

end Stable

/-- The list of all models has each stable model, once. -/
theorem mem_allModels_iff {clauses : List Clause} (hsafe : ∀ c ∈ clauses, c.isSafe = true)
    {M : Set GroundAtom} : (∃ m ∈ allModels clauses, {a | a ∈ m} = M) ↔ IsStable clauses M := by
  constructor
  · rintro ⟨m, hm, rfl⟩
    have hm : m ∈ stableModels 0 clauses := by rwa [stableModels_eq_take, if_pos rfl]
    exact isStable_of_mem_stableModels hsafe hm
  · exact fun hM => hM.exists_mem_searchAll hsafe (by simp) (by simp) fun a ha => .inr (.inr ha)

theorem nodup_map_allModels (clauses : List Clause) :
    ((allModels clauses).map fun m => {a | a ∈ m}).Nodup := by
  refine List.pairwise_map.2 ((pairwise_searchAll _ _ _).imp fun {m n} hmn heq => ?_)
  obtain ⟨a, ha⟩ := hmn
  exact ha (Set.ext_iff.1 heq a)

theorem setOf_isStable_eq {clauses : List Clause} (hsafe : ∀ c ∈ clauses, c.isSafe = true) :
    {M | IsStable clauses M} = {M | M ∈ (allModels clauses).map fun m => {a | a ∈ m}} :=
  Set.ext fun _ => (mem_allModels_iff hsafe).symm.trans List.mem_map.symm

theorem ncard_isStable {clauses : List Clause} (hsafe : ∀ c ∈ clauses, c.isSafe = true) :
    {M | IsStable clauses M}.ncard = (allModels clauses).length := by
  classical
  have hfinset : {M | M ∈ (allModels clauses).map fun m => {a | a ∈ m}} =
      (((allModels clauses).map fun m => {a | a ∈ m}).toFinset : Set (Set GroundAtom)) := by
    simp
  rw [setOf_isStable_eq hsafe, hfinset, Set.ncard_coe_finset,
    List.toFinset_card_of_nodup (nodup_map_allModels clauses), List.length_map]

theorem finite_isStable {clauses : List Clause} (hsafe : ∀ c ∈ clauses, c.isSafe = true) :
    {M | IsStable clauses M}.Finite := by
  rw [setOf_isStable_eq hsafe]
  exact List.finite_toSet _

end AnswerSetLearning.Solver
