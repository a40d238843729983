import AnswerSetLearning.Proofs.Solver.Derivations

namespace AnswerSetLearning.Solver

namespace Clause

variable {c c' : Clause} {o : Occurrence} {v : Valuation} {T F : Set GroundAtom} {a : GroundAtom}

theorem yields_congr (hhead : c'.head = c.head) (hatoms : ∀ o, o ∈ c'.atoms ↔ o ∈ c.atoms)
    (htests : c'.tests = c.tests) : c'.Yields v T F a ↔ c.Yields v T F a :=
  ⟨fun h => ⟨hhead ▸ h.head, fun o ho => h.body o ((hatoms o).2 ho), htests ▸ h.tests⟩,
    fun h => ⟨hhead ▸ h.head, fun o ho => h.body o ((hatoms o).1 ho), htests ▸ h.tests⟩⟩

theorem mem_boundVars_iff {x : String} : x ∈ c.boundVars ↔
    (∃ p, ⟨false, p⟩ ∈ c.atoms ∧ x ∈ p.vars) ∨ ∃ ns, (x, ns) ∈ c.ranges := by
  simp [boundVars, mem_positive_iff]

theorem isSafe_iff : c.isSafe = true ↔ (∀ p, c.head = some p → ∀ a ∈ p.args, c.binds a = true) ∧
    (∀ p, ⟨true, p⟩ ∈ c.atoms → ∀ x ∈ p.vars, x ∈ c.boundVars) ∧
      ∀ t ∈ c.tests, c.binds t.left = true ∧ c.binds t.right = true := by
  constructor
  · intro h
    obtain ⟨hhead, hnegative, htests⟩ := of_isSafe h
    exact ⟨hhead, fun p hp => hnegative p (mem_negative_iff.2 hp), htests⟩
  · rintro ⟨hhead, hnegative, htests⟩
    simp only [isSafe, Bool.and_eq_true, Option.all_eq_true, List.all_eq_true,
      List.contains_iff_mem]
    exact ⟨⟨hhead, fun p hp => hnegative p (mem_negative_iff.1 hp)⟩, htests⟩

theorem isSafe_congr (hhead : c'.head = c.head) (hatoms : ∀ o, o ∈ c'.atoms ↔ o ∈ c.atoms)
    (htests : c'.tests = c.tests) (h : c.isSafe = true) : c'.isSafe = true := by
  have hbound (x : String) : x ∈ c'.boundVars ↔ x ∈ c.boundVars := by
    simp only [mem_boundVars_iff, hatoms, ranges, htests]
  have hbinds (a : Arg) : c'.binds a = c.binds a := by
    cases a with
    | var x => simp [binds, hbound]
    | _ => rfl
  obtain ⟨hhead', hnegative, htests'⟩ := isSafe_iff.1 h
  refine isSafe_iff.2 ⟨?_, fun p hp x hx => (hbound x).2 (hnegative p ((hatoms _).1 hp) x hx), ?_⟩
  · simpa only [hhead, hbinds] using hhead'
  · simpa only [htests, hbinds] using htests'

theorem mem_of_mem_closing {bound xs : List String} {atoms : List Occurrence}
    (h : o ∈ closing bound xs atoms) : o ∈ atoms := by
  induction xs generalizing bound with
  | nil => cases h
  | cons x xs ih =>
    rw [closing] at h
    split at h
    · exact ih h
    · rcases List.mem_append.1 h with h | h
      · exact List.mem_of_mem_filter h
      · exact ih h

theorem mem_closing {bound xs : List String} {atoms : List Occurrence} (ho : o ∈ atoms)
    (hvars : ∀ x ∈ o.atom.vars, x ∈ bound ∨ x ∈ xs) (hopen : ¬ ∀ x ∈ o.atom.vars, x ∈ bound) :
    o ∈ closing bound xs atoms := by
  induction xs generalizing bound with
  | nil => exact absurd (fun x hx => (hvars x hx).resolve_right List.not_mem_nil) hopen
  | cons x xs ih =>
    rw [closing]
    split
    · next hx =>
      have hx : x ∈ bound := List.contains_iff_mem.1 hx
      exact ih (fun y hy => by grind) hopen
    · next hx =>
      by_cases hclosed : ∀ y ∈ o.atom.vars, y ∈ x :: bound
      · have hmem : x ∈ o.atom.vars := by
          by_contra hnot
          exact hopen fun y hy => (List.mem_cons.1 (hclosed y hy)).resolve_left
            fun heq => hnot (heq ▸ hy)
        refine List.mem_append_left _ (List.mem_filter.2 ⟨ho, ?_⟩)
        simpa [hmem] using hclosed
      · exact List.mem_append_right _ (ih (fun y hy => by grind) hclosed)

theorem mem_arranged_atoms (hc : c.isSafe = true) : o ∈ c.arranged.atoms ↔ o ∈ c.atoms := by
  obtain ⟨-, hnegative, -⟩ := isSafe_iff.1 hc
  simp only [arranged, List.partition_eq_filter_filter, List.mem_append, List.mem_reverse,
    List.mem_filter]
  constructor
  · rintro (h | h)
    · exact h.1
    · exact (List.mem_filter.1 (mem_of_mem_closing h)).1
  · intro ho
    by_cases hfree : (!o.negated || o.atom.vars.isEmpty) = true
    · exact .inl ⟨ho, hfree⟩
    · obtain ⟨negated, p⟩ := o
      simp only [Bool.or_eq_true, Bool.not_eq_true', List.isEmpty_iff, not_or,
        Bool.not_eq_false] at hfree
      obtain ⟨rfl, hvars⟩ := hfree
      obtain ⟨x, hx⟩ := List.exists_mem_of_ne_nil _ hvars
      refine .inr (mem_closing (List.mem_filter.2 ⟨ho, ?_⟩) (fun y hy => .inr ?_) fun h => ?_)
      · simpa using hvars
      · rcases mem_boundVars_iff.1 (hnegative p ho y hy) with ⟨q, hq, hyq⟩ | ⟨ns, hns⟩
        · refine List.mem_append_right _ (List.mem_flatMap.2 ⟨⟨false, q⟩, ?_, hyq⟩)
          simpa using hq
        · exact List.mem_append_left _ (List.mem_map_of_mem hns)
      · cases h x hx

theorem isSafe_arranged (hc : c.isSafe = true) : c.arranged.isSafe = true :=
  isSafe_congr (c := c) rfl (fun _ => mem_arranged_atoms hc) rfl hc

theorem yields_arranged (hc : c.isSafe = true) : c.arranged.Yields v T F a ↔ c.Yields v T F a :=
  yields_congr (c := c) rfl (fun _ => mem_arranged_atoms hc) rfl

end Clause

end AnswerSetLearning.Solver
