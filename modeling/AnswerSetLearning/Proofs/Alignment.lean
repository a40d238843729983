import Mathlib
import AnswerSetLearning.Proofs.SortedSet

universe u v

namespace AnswerSetLearning.SortedSet

variable {α : Type u} {β : Type v}

inductive Side
  | first
  | second
  | both
  deriving DecidableEq

def picked (p : Side → Bool) (l : List (Side × α)) : List α := (l.filter (p ·.1)).map Prod.snd

theorem picked_sublist {p q : Side → Bool} (h : ∀ side, p side = true → q side = true)
    (l : List (Side × α)) : (picked p l).Sublist (picked q l) :=
  (List.monotone_filter_right l fun e => h e.1).map Prod.snd

theorem length_picked_first (l : List (Side × α)) :
    (picked (· = .first) l).length + (picked (· = .both) l).length =
      (picked (· ≠ .second) l).length := by
  induction l with
  | nil => rfl
  | cons e l ih =>
    rcases e with ⟨_ | _ | _, x⟩ <;> simp [picked] at ih ⊢ <;> omega

theorem length_picked_all (l : List (Side × α)) :
    (picked (fun _ => true) l).length + (picked (· = .both) l).length =
      (picked (· ≠ .second) l).length + (picked (· ≠ .first) l).length := by
  induction l with
  | nil => rfl
  | cons e l ih =>
    rcases e with ⟨_ | _ | _, x⟩ <;> simp [picked] at ih ⊢ <;> omega

namespace Merge

def read (m : Merge α β) : Side × α → β → β
  | (.first, x) => m.first x
  | (.second, y) => m.second y
  | (.both, x) => m.both x

/-- What is left of one list when the other ends is read like all that stands in one list only. -/
structure Uniform (m : Merge α β) (last : β) : Prop where
  firstRest_nil : m.firstRest [] = last
  firstRest_cons : ∀ x l, m.firstRest (x :: l) = m.first x (m.firstRest l)
  secondRest_nil : m.secondRest [] = last
  secondRest_cons : ∀ y l, m.secondRest (y :: l) = m.second y (m.secondRest l)

def align : Merge α (List (Side × α)) where
  firstRest := List.map (.first, ·)
  secondRest := List.map (.second, ·)
  first x l := (.first, x) :: l
  second y l := (.second, y) :: l
  both x l := (.both, x) :: l

theorem uniform_union : (union (α := α)).Uniform [] :=
  ⟨rfl, fun _ _ => rfl, rfl, fun _ _ => rfl⟩

theorem uniform_inter : (inter (α := α)).Uniform [] :=
  ⟨rfl, fun _ _ => rfl, rfl, fun _ _ => rfl⟩

theorem uniform_diff : (diff (α := α)).Uniform [] :=
  ⟨rfl, fun _ _ => rfl, rfl, fun _ _ => rfl⟩

theorem uniform_subset : (subset (α := α)).Uniform true :=
  ⟨rfl, fun _ _ => rfl, rfl, fun _ _ => rfl⟩

theorem Uniform.foldr_first {m : Merge α β} {last : β} (hm : m.Uniform last) (l : List α) :
    m.firstRest l = (l.map (Side.first, ·)).foldr m.read last := by
  induction l with
  | nil => exact hm.firstRest_nil
  | cons x l ih => rw [hm.firstRest_cons, ih]; rfl

theorem Uniform.foldr_second {m : Merge α β} {last : β} (hm : m.Uniform last) (l : List α) :
    m.secondRest l = (l.map (Side.second, ·)).foldr m.read last := by
  induction l with
  | nil => exact hm.secondRest_nil
  | cons y l ih => rw [hm.secondRest_cons, ih]; rfl

theorem foldr_read_eq_picked {m : Merge α (List α)} {p : Side → Bool}
    (h : ∀ e l, m.read e l = if p e.1 = true then e.2 :: l else l) (l : List (Side × α)) :
    l.foldr m.read [] = picked p l := by
  induction l with
  | nil => rfl
  | cons e l ih => rw [List.foldr_cons, h, ih]; cases hp : p e.1 <;> simp [picked, hp]

section Align

variable [LT α] [DecidableLT α] [IsStrictTotalOrder α (· < ·)]

theorem Uniform.run_eq_foldr {m : Merge α β} {last : β} (hm : m.Uniform last) (a b : List α) :
    m.run a b = (align.run a b).foldr m.read last := by
  induction a, b using Merge.induction with
  | done b => exact hm.foldr_second b
  | rest x a => exact hm.foldr_first (x :: a)
  | first x a y b h ih => rw [run_of_lt _ h, run_of_lt _ h, ih]; rfl
  | second x a y b h ih => rw [run_of_gt _ h, run_of_gt _ h, ih]; rfl
  | both x a b ih => rw [run_of_eq, run_of_eq, ih]; rfl

theorem picked_first_or_both (a b : List α) : picked (· ≠ .second) (align.run a b) = a := by
  induction a, b using Merge.induction with
  | done b => simp [picked, align, List.filter_map, Function.comp_def]
  | rest x a => simp [picked, align, List.filter_map, Function.comp_def]
  | first x a y b h ih => rw [run_of_lt _ h]; simpa [picked, align] using ih
  | second x a y b h ih => rw [run_of_gt _ h]; simpa [picked, align] using ih
  | both x a b ih => rw [run_of_eq]; simpa [picked, align] using ih

theorem picked_second_or_both (a b : List α) : picked (· ≠ .first) (align.run a b) = b := by
  induction a, b using Merge.induction with
  | done b => simp [picked, align, List.filter_map, Function.comp_def]
  | rest x a => simp [picked, align, List.filter_map, Function.comp_def]
  | first x a y b h ih => rw [run_of_lt _ h]; simpa [picked, align] using ih
  | second x a y b h ih => rw [run_of_gt _ h]; simpa [picked, align] using ih
  | both x a b ih => rw [run_of_eq]; simpa [picked, align] using ih

theorem run_union_eq (a b : List α) : union.run a b = picked (fun _ => true) (align.run a b) := by
  rw [uniform_union.run_eq_foldr]
  exact foldr_read_eq_picked (by rintro ⟨_ | _ | _, x⟩ l <;> rfl) _

theorem run_inter_eq (a b : List α) : inter.run a b = picked (· = .both) (align.run a b) := by
  rw [uniform_inter.run_eq_foldr]
  exact foldr_read_eq_picked (by rintro ⟨_ | _ | _, x⟩ l <;> rfl) _

theorem run_diff_eq (a b : List α) : diff.run a b = picked (· = .first) (align.run a b) := by
  rw [uniform_diff.run_eq_foldr]
  exact foldr_read_eq_picked (by rintro ⟨_ | _ | _, x⟩ l <;> rfl) _

theorem run_subset_iff (a b : List α) : subset.run a b = true ↔ diff.run a b = [] := by
  rw [uniform_subset.run_eq_foldr, uniform_diff.run_eq_foldr]
  induction align.run a b with
  | nil => exact iff_of_true rfl rfl
  | cons e l ih =>
    obtain ⟨side, x⟩ := e
    cases side with
    | first => exact iff_of_false Bool.false_ne_true (List.cons_ne_nil x _)
    | _ => exact ih

theorem run_inter_sublist_right (a b : List α) : (inter.run a b).Sublist b := by
  have hpicked : (picked (· = .both) (align.run a b)).Sublist
      (picked (· ≠ .first) (align.run a b)) := picked_sublist (by simp) _
  rwa [← run_inter_eq, picked_second_or_both] at hpicked

theorem filter_sublist_run_diff [DecidableEq α] (a b : List α) :
    (a.filter (· ∉ b)).Sublist (diff.run a b) := by
  have hmem (e : Side × α) (he : e ∈ align.run a b) (hside : e.1 ≠ .first) : e.2 ∈ b := by
    have hpicked : e.2 ∈ picked (· ≠ .first) (align.run a b) :=
      List.mem_map_of_mem (List.mem_filter.2 ⟨he, by simpa using hside⟩)
    rwa [picked_second_or_both] at hpicked
  have hkept : a.filter (· ∉ b) = (diff.run a b).filter (· ∉ b) := by
    conv_lhs => rw [← picked_first_or_both a b]
    simp only [run_diff_eq, picked, List.filter_map, List.filter_filter]
    refine congrArg _ (List.filter_congr fun e he => ?_)
    by_cases hb : e.2 ∈ b
    · simp [hb]
    · simp [hb, not_imp_comm.1 (hmem e he) hb]
  rw [hkept]
  exact List.filter_sublist

theorem length_run_diff_add_inter (a b : List α) :
    (diff.run a b).length + (inter.run a b).length = a.length := by
  have h := length_picked_first (align.run a b)
  rwa [picked_first_or_both, ← run_diff_eq, ← run_inter_eq] at h

theorem length_run_union_add_inter (a b : List α) :
    (union.run a b).length + (inter.run a b).length = a.length + b.length := by
  have h := length_picked_all (align.run a b)
  rwa [picked_first_or_both, picked_second_or_both, ← run_inter_eq, ← run_union_eq] at h

end Align

end Merge

section Unordered

variable [LT α] [DecidableLT α] [IsStrictTotalOrder α (· < ·)] {s t : SortedSet α}

theorem size_diff_add_size_inter (s t : SortedSet α) :
    (s.diff t).size + (s.inter t).size = s.size := Merge.length_run_diff_add_inter _ _

theorem isSubset_iff_diff_eq_nil : s.isSubset t = true ↔ (s.diff t).items = [] := by
  have hrun : Merge.subset.run s.items t.items = true ↔ (s.diff t).items = [] :=
    Merge.run_subset_iff _ _
  unfold isSubset
  split
  · rename_i hsize
    refine iff_of_false Bool.false_ne_true fun hdiff => ?_
    have hinter : (s.inter t).size ≤ t.size := (Merge.run_inter_sublist_right _ _).length_le
    have hsizes := size_diff_add_size_inter s t
    simp only [size, hdiff, List.length_nil] at hsizes hinter hsize
    omega
  · exact hrun

theorem isDisjoint_iff_inter_eq_nil : s.isDisjoint t = true ↔ (s.inter t).items = [] :=
  Merge.run_disjoint _ _

theorem sublist_of_isSubset (h : s.isSubset t = true) : s.items.Sublist t.items := by
  unfold isSubset at h
  split at h
  · cases h
  · exact Merge.sublist_of_run_subset h

end Unordered

section Laws

variable [LT α] [DecidableLT α] [DecidableEq α] [IsStrictTotalOrder α (· < ·)]

/-- What the operations compute of lists in any order, with any repetitions. -/
theorem operations_of_unordered (s t : SortedSet α) :
    (∀ a, a ∈ s.union t ↔ a ∈ s ∨ a ∈ t) ∧
    (s.inter t).items.Sublist s.items ∧ (s.inter t).items.Sublist t.items ∧
    (s.diff t).items.Sublist s.items ∧
    (s.items.filter (· ∉ t.items)).Sublist (s.diff t).items ∧
    (s.union t).size + (s.inter t).size = s.size + t.size ∧
    (s.diff t).size + (s.inter t).size = s.size ∧
    (s.isDisjoint t = true ↔ (s.inter t).items = []) ∧
    (s.isSubset t = true ↔ (s.diff t).items = []) ∧
    (s.isSubset t = true → s.items.Sublist t.items) :=
  ⟨fun _ => mem_union, Merge.run_inter_sublist _ _, Merge.run_inter_sublist_right _ _,
    Merge.run_diff_sublist _ _, Merge.filter_sublist_run_diff _ _,
    Merge.length_run_union_add_inter _ _, size_diff_add_size_inter s t,
    isDisjoint_iff_inter_eq_nil, isSubset_iff_diff_eq_nil, sublist_of_isSubset⟩

end Laws

def unordered : SortedSet Nat × SortedSet Nat :=
  (((ofList [4]).insert 1).insert 4, (ofList [4, 2]).insert 4)

theorem operations_of_inserted :
    unordered = (⟨[4, 1, 4]⟩, ⟨[2, 4, 4]⟩) ∧
      (unordered.1.diff unordered.2).items = [1] ∧
      (unordered.1.inter unordered.2).items = [4, 4] ∧
      (unordered.1.union unordered.2).size + (unordered.1.inter unordered.2).size =
        unordered.1.size + unordered.2.size ∧
      ¬ unordered.1.isDisjoint unordered.2 = true ∧ ¬ unordered.1.isSubset unordered.2 = true := by
  have hset : unordered = (⟨[4, 1, 4]⟩, ⟨[2, 4, 4]⟩) := by cbv
  have hinter : (unordered.1.inter unordered.2).items = [4, 4] := by rw [hset]; rfl
  have hdiff : (unordered.1.diff unordered.2).items = [1] := by rw [hset]; rfl
  obtain ⟨-, -, -, -, -, hsize, -, hdisjoint, hsubset, -⟩ :=
    operations_of_unordered unordered.1 unordered.2
  refine ⟨hset, hdiff, hinter, hsize, ?_, ?_⟩
  · rw [hdisjoint, hinter]
    exact List.cons_ne_nil _ _
  · rw [hsubset, hdiff]
    exact List.cons_ne_nil _ _

end AnswerSetLearning.SortedSet
