import AnswerSetLearning.Proofs.Solver.Engine
import AnswerSetLearning.Proofs.Solver.Firing

namespace AnswerSetLearning.Solver

namespace Grounding

variable {a : GroundAtom}

theorem mem_run {old new : List GroundAtom} {g : Grounding} {p : Pass} (h : a ∈ g.facts) :
    a ∈ (Pass.run old new g p).facts :=
  List.foldlRecOn (motive := fun g : Grounding => a ∈ g.facts) _ _ h
    fun _ hg _ _ => mem_fire hg

theorem mem_groundBlocks {bound : Nat} {blocks : List (List Statement)} {g : Grounding}
    (h : a ∈ g.facts) : a ∈ (groundBlocks bound blocks g).facts :=
  Pass.keeps_groundBlocks (Q := fun g : Grounding => a ∈ g.facts) bound
    (fun _ _ _ _ _ _ _ _ _ _ _ h => mem_run h) h

end Grounding

theorem fact?_factClause (p : Pattern) : (factClause p).fact? = p.eval? [] := rfl

theorem mem_facts_ground {clauses : List Clause} {p : Pattern} {a : GroundAtom}
    (hc : factClause p ∈ clauses) (hp : p.eval? [] = some a)
    (ha : isPredicateName a.predicate = true) : a ∈ (ground clauses).facts := by
  have hgiven : a ∈ clauses.filterMap Clause.fact? :=
    List.mem_filterMap.2 ⟨_, hc, (fact?_factClause p).trans hp⟩
  refine List.mem_filter.2 ⟨Grounding.mem_groundBlocks ?_, ha⟩
  exact Grounding.mem_foldl_addFact.2 (.inr hgiven)

theorem mem_fresh {α : Type} [DecidableEq α] {known found : List α} {a : α} :
    a ∈ fresh known found ↔ a ∈ found ∧ a ∉ known := by
  induction found with
  | nil => simp [fresh]
  | cons b found ih =>
    rw [fresh]
    split_ifs <;> grind

theorem mem_grow {α : Type} [DecidableEq α] {step : List α → List α} {fuel : Nat}
    {known : List α} {a : α} (h : a ∈ known) : a ∈ grow step fuel known := by
  induction fuel generalizing known with
  | zero => exact h
  | succ fuel ih =>
    rw [grow]
    split
    · exact h
    · exact ih (List.mem_append_left _ h)

theorem mem_grow_of_mem_step {α : Type} [DecidableEq α] {step : List α → List α} {fuel : Nat}
    {known : List α} {a : α} (hfuel : 0 < fuel) (h : a ∈ step known) :
    a ∈ grow step fuel known := by
  cases fuel with
  | zero => cases hfuel
  | succ fuel =>
    have hmem : a ∈ known ++ fresh known (step known) := by
      by_cases hknown : a ∈ known
      · exact List.mem_append_left _ hknown
      · exact List.mem_append_right _ (mem_fresh.2 ⟨h, hknown⟩)
    rw [grow]
    split
    · next hfresh => simpa [hfresh] using hmem
    · exact mem_grow hmem

theorem mem_leastModel {insts : List Instance} {assumed : List GroundAtom} {a : GroundAtom}
    (h : ⟨some a, [], []⟩ ∈ insts) : a ∈ leastModel insts assumed := by
  have hreduct : ⟨some a, [], []⟩ ∈ insts.filter fun i => i.unblocked assumed :=
    List.mem_filter.2 ⟨h, rfl⟩
  apply mem_grow_of_mem_step (List.length_pos_of_mem hreduct)
  exact List.mem_filterMap.2 ⟨_, hreduct, rfl⟩

/-- The search ends with all atoms decided, and with the least model of those that are chosen. -/
theorem exists_decided_of_mem_search {insts : List Instance} {room : Nat}
    {chosen rejected undecided m : List GroundAtom}
    (h : m ∈ search insts room chosen rejected undecided) :
    ∃ chosen' rejected', (∀ a, a ∈ chosen ∨ a ∈ rejected ∨ a ∈ undecided →
        a ∈ chosen' ∨ a ∈ rejected') ∧
      isOpen insts chosen' rejected' [] = true ∧ m = leastModel insts chosen' := by
  induction undecided generalizing room chosen rejected with
  | nil =>
    cases room with
    | zero => cases h
    | succ room =>
      rw [search] at h
      split at h
      · next hopen => exact ⟨chosen, rejected, by simp, hopen, List.mem_singleton.1 h⟩
      · cases h
  | cons a rest ih =>
    cases room with
    | zero => cases h
    | succ room =>
      rw [search] at h
      split at h
      · cases List.mem_append.1 h with
        | inl h =>
          obtain ⟨chosen', rejected', hdecided, hend⟩ := ih h
          exact ⟨chosen', rejected', fun b hb => hdecided b (by grind), hend⟩
        | inr h =>
          obtain ⟨chosen', rejected', hdecided, hend⟩ := ih h
          exact ⟨chosen', rejected', fun b hb => hdecided b (by grind), hend⟩
      · cases h

theorem mem_instances_factClause {atoms : List GroundAtom} {clauses : List Clause} {p : Pattern}
    {a : GroundAtom} (hc : factClause p ∈ clauses) (hp : p.eval? [] = some a) :
    ⟨some a, [], []⟩ ∈ instances atoms clauses := by
  refine List.mem_flatMap.2 ⟨_, hc, ?_⟩
  have hinstance : (factClause p).instance? [] [] = some ⟨some a, [], []⟩ := by
    simp [Clause.instance?, factClause, hp, Clause.negative]
  simp only [Clause.instances, Clause.instancesFrom, ranges_factClause]
  exact List.mem_flatMap.2 ⟨([], []), List.mem_singleton_self _,
    List.mem_filterMap.2 ⟨[], List.mem_singleton_self _, hinstance⟩⟩

theorem mem_of_mem_stableModels {limit : Nat} {clauses : List Clause} {p : Pattern}
    {a : GroundAtom} (hc : factClause p ∈ clauses) (hp : p.eval? [] = some a)
    {m : List GroundAtom} (hm : m ∈ stableModels limit clauses) : a ∈ m := by
  obtain ⟨chosen, -, -, -, rfl⟩ := exists_decided_of_mem_search hm
  exact mem_leastModel (mem_instances_factClause hc hp)

theorem keepsFacts_builtIn : Engine.builtIn.KeepsFacts where
  facts h _ hl hspelled hfits := by
    obtain ⟨clauses, hcompile, rfl⟩ := Engine.builtIn_facts_eq_ok_iff.1 h
    obtain ⟨p, atom, hc, hp, rfl, hname⟩ := exists_factClause hspelled hfits hl hcompile
    exact List.mem_map_of_mem (mem_facts_ground hc hp hname)
  models h _ hl hspelled hfits ls hls := by
    obtain ⟨clauses, hcompile, rfl⟩ := Engine.builtIn_models_eq_ok_iff.1 h
    obtain ⟨p, atom, hc, hp, rfl, -⟩ := exists_factClause hspelled hfits hl hcompile
    obtain ⟨model, hmodel, rfl⟩ := List.mem_map.1 hls
    exact List.mem_map_of_mem (mem_of_mem_stableModels hc hp hmodel)

end AnswerSetLearning.Solver
