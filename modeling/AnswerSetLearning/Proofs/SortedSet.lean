import AnswerSetLearning.SortedSet
import Mathlib.Data.List.Sort
import Mathlib.Order.RelClasses

universe u v

namespace AnswerSetLearning.SortedSet

variable {α : Type u}

instance : Membership α (SortedSet α) := ⟨fun s a => a ∈ s.items⟩

instance : HasSubset (SortedSet α) := ⟨fun s t => ∀ ⦃a⦄, a ∈ s → a ∈ t⟩

theorem mem_def {a : α} {s : SortedSet α} : a ∈ s ↔ a ∈ s.items := Iff.rfl

@[simp] theorem mem_mk {a : α} {l : List α} : a ∈ (⟨l⟩ : SortedSet α) ↔ a ∈ l := Iff.rfl

theorem subset_def {s t : SortedSet α} : s ⊆ t ↔ ∀ ⦃a⦄, a ∈ s → a ∈ t := Iff.rfl

instance [DecidableEq α] (a : α) (s : SortedSet α) : Decidable (a ∈ s) :=
  inferInstanceAs (Decidable (a ∈ s.items))

instance [DecidableEq α] (s t : SortedSet α) : Decidable (s ⊆ t) :=
  inferInstanceAs (Decidable (∀ a ∈ s.items, a ∈ t.items))

@[simp] theorem subset_refl (s : SortedSet α) : s ⊆ s := fun _ h => h

theorem subset_trans {s t r : SortedSet α} (h : s ⊆ t) (h' : t ⊆ r) : s ⊆ r :=
  fun _ ha => h' (h ha)

@[simp] theorem not_mem_empty (a : α) : a ∉ (empty : SortedSet α) := List.not_mem_nil

section Repeats

variable [DecidableEq α]

@[simp] theorem mem_dropRepeats {a : α} {l : List α} : a ∈ dropRepeats l ↔ a ∈ l := by
  induction l using dropRepeats.induct with
  | case1 => simp [dropRepeats]
  | case2 b => simp [dropRepeats]
  | case3 b l ih => simp [dropRepeats, ih]
  | case4 b c l hbc ih => simp [dropRepeats, hbc, ih]

@[simp] theorem mem_firstOccurrences {a : α} {l : List α} : a ∈ firstOccurrences l ↔ a ∈ l := by
  induction l with
  | nil => simp [firstOccurrences]
  | cons b l ih => by_cases h : a = b <;> simp [firstOccurrences, ih, h]

theorem nodup_firstOccurrences (l : List α) : (firstOccurrences l).Nodup := by
  induction l with
  | nil => exact List.nodup_nil
  | cons a l ih => exact List.nodup_cons.2 ⟨by simp, ih.filter _⟩

end Repeats

section Order

variable [LT α]

def Normal (s : SortedSet α) : Prop := s.items.Pairwise (· < ·)

instance [DecidableLT α] (s : SortedSet α) : Decidable s.Normal :=
  inferInstanceAs (Decidable (s.items.Pairwise (· < ·)))

theorem normal_of_sublist {l : List α} {s : SortedSet α} (hs : s.Normal)
    (h : l.Sublist s.items) : (⟨l⟩ : SortedSet α).Normal := List.Pairwise.sublist h hs

variable [IsStrictTotalOrder α (· < ·)]

theorem eq_of_not_lt {a b : α} (hab : ¬ a < b) (hba : ¬ b < a) : a = b :=
  Std.Trichotomous.trichotomous (r := (· < ·)) a b hab hba

theorem not_mem_of_lt_head {x y : α} {b : List α} (hb : (y :: b).Pairwise (· < ·))
    (h : x < y) : x ∉ y :: b := by
  intro hx
  rcases List.mem_cons.1 hx with rfl | hx
  · exact irrefl_of (· < ·) x h
  · exact asymm_of (· < ·) h (List.rel_of_pairwise_cons hb hx)

theorem not_mem_tail {x : α} {a : List α} (ha : (x :: a).Pairwise (· < ·)) : x ∉ a :=
  fun h => irrefl_of (· < ·) x (List.rel_of_pairwise_cons ha h)

theorem Normal.nodup {s : SortedSet α} (hs : s.Normal) : s.items.Nodup := by
  apply List.Pairwise.imp _ hs
  rintro a b hab rfl
  exact irrefl_of (· < ·) a hab

theorem Normal.size_le {s t : SortedSet α} (hs : s.Normal) (h : s ⊆ t) : s.size ≤ t.size :=
  (List.subperm_of_subset hs.nodup h).length_le

theorem Normal.ext {s t : SortedSet α} (hs : s.Normal) (ht : t.Normal)
    (h : ∀ a, a ∈ s ↔ a ∈ t) : s = t := by
  have hperm : s.items.Perm t.items := (List.perm_ext_iff_of_nodup hs.nodup ht.nodup).2 h
  cases s
  cases t
  exact congrArg _ (hperm.eq_of_pairwise (fun _ _ _ _ hab hba => (asymm_of _ hab hba).elim) hs ht)

theorem Normal.eq_of_subset_of_size_le {s t : SortedSet α} (hs : s.Normal) (ht : t.Normal)
    (h : s ⊆ t) (hsize : t.size ≤ s.size) : s = t :=
  hs.ext ht fun _ =>
    ((List.subperm_of_subset hs.nodup h).perm_of_length_le hsize).mem_iff

end Order

namespace Merge

variable {β : Type v} [LT α] [DecidableLT α] {x y : α} {a b : List α}

theorem run_of_lt (m : Merge α β) (h : x < y) :
    m.run (x :: a) (y :: b) = m.first x (m.run a (y :: b)) := by
  rw [run_cons_cons, if_pos h]

variable [IsStrictTotalOrder α (· < ·)]

theorem run_of_gt (m : Merge α β) (h : y < x) :
    m.run (x :: a) (y :: b) = m.second y (m.run (x :: a) b) := by
  rw [run_cons_cons, if_neg (asymm_of _ h), if_pos h]

theorem run_of_eq (m : Merge α β) : m.run (x :: a) (x :: b) = m.both x (m.run a b) := by
  rw [run_cons_cons, if_neg (irrefl_of _ x), if_neg (irrefl_of _ x)]

@[elab_as_elim] theorem induction {P : List α → List α → Prop} (done : ∀ b, P [] b)
    (rest : ∀ x a, P (x :: a) [])
    (first : ∀ x a y b, x < y → P a (y :: b) → P (x :: a) (y :: b))
    (second : ∀ x a y b, y < x → P (x :: a) b → P (x :: a) (y :: b))
    (both : ∀ x a b, P a b → P (x :: a) (x :: b)) (a b : List α) : P a b := by
  induction a generalizing b with
  | nil => exact done b
  | cons x a iha =>
    induction b with
    | nil => exact rest x a
    | cons y b ihb =>
      by_cases hxy : x < y
      · exact first x a y b hxy (iha (y :: b))
      by_cases hyx : y < x
      · exact second x a y b hyx ihb
      · rw [eq_of_not_lt hxy hyx]
        exact both y a b (iha b)

theorem mem_run_union {c : α} (a b : List α) : c ∈ union.run a b ↔ c ∈ a ∨ c ∈ b := by
  induction a, b using Merge.induction with
  | done b => simp [union]
  | rest x a => simp [union]
  | first x a y b h ih => rw [run_of_lt _ h]; simp [union] at ih ⊢; grind
  | second x a y b h ih => rw [run_of_gt _ h]; simp [union] at ih ⊢; grind
  | both x a b ih => rw [run_of_eq]; simp [union] at ih ⊢; grind

theorem pairwise_run_union {a b : List α} (ha : a.Pairwise (· < ·)) (hb : b.Pairwise (· < ·)) :
    (union.run a b).Pairwise (· < ·) := by
  induction a, b using Merge.induction with
  | done b => exact hb
  | rest x a => exact ha
  | first x a y b h ih =>
    rw [run_of_lt _ h]
    refine List.pairwise_cons.2 ⟨fun c hc => ?_, ih ha.of_cons hb⟩
    rcases (mem_run_union _ _).1 hc with hc | hc
    · exact List.rel_of_pairwise_cons ha hc
    · rcases List.mem_cons.1 hc with rfl | hc
      · exact h
      · exact trans_of _ h (List.rel_of_pairwise_cons hb hc)
  | second x a y b h ih =>
    rw [run_of_gt _ h]
    refine List.pairwise_cons.2 ⟨fun c hc => ?_, ih ha hb.of_cons⟩
    rcases (mem_run_union _ _).1 hc with hc | hc
    · rcases List.mem_cons.1 hc with rfl | hc
      · exact h
      · exact trans_of _ h (List.rel_of_pairwise_cons ha hc)
    · exact List.rel_of_pairwise_cons hb hc
  | both x a b ih =>
    rw [run_of_eq]
    refine List.pairwise_cons.2 ⟨fun c hc => ?_, ih ha.of_cons hb.of_cons⟩
    rcases (mem_run_union _ _).1 hc with hc | hc
    · exact List.rel_of_pairwise_cons ha hc
    · exact List.rel_of_pairwise_cons hb hc

theorem run_inter_sublist (a b : List α) : (inter.run a b).Sublist a := by
  induction a, b using Merge.induction with
  | done b => exact List.Sublist.refl _
  | rest x a => exact List.nil_sublist _
  | first x a y b h ih => rw [run_of_lt _ h]; exact ih.cons x
  | second x a y b h ih => rw [run_of_gt _ h]; exact ih
  | both x a b ih => rw [run_of_eq]; exact ih.cons_cons x

theorem mem_run_inter {c : α} {a b : List α} (ha : a.Pairwise (· < ·))
    (hb : b.Pairwise (· < ·)) : c ∈ inter.run a b ↔ c ∈ a ∧ c ∈ b := by
  induction a, b using Merge.induction with
  | done b => simp [inter]
  | rest x a => simp [inter]
  | first x a y b h ih =>
    have hx : x ∉ y :: b := not_mem_of_lt_head hb h
    rw [run_of_lt _ h]
    simp only [inter, List.mem_cons] at ih hx ⊢
    grind [ih ha.of_cons hb]
  | second x a y b h ih =>
    have hy : y ∉ x :: a := not_mem_of_lt_head ha h
    rw [run_of_gt _ h]
    simp only [inter, List.mem_cons] at ih hy ⊢
    grind [ih ha hb.of_cons]
  | both x a b ih =>
    rw [run_of_eq]
    simp only [inter, List.mem_cons] at ih ⊢
    grind [ih ha.of_cons hb.of_cons]

theorem run_disjoint (a b : List α) : disjoint.run a b = true ↔ inter.run a b = [] := by
  induction a, b using Merge.induction with
  | done b => simp [disjoint, inter]
  | rest x a => simp [disjoint, inter]
  | first x a y b h ih => rw [run_of_lt _ h, run_of_lt _ h]; exact ih
  | second x a y b h ih => rw [run_of_gt _ h, run_of_gt _ h]; exact ih
  | both x a b ih => rw [run_of_eq, run_of_eq]; simp [disjoint, inter]

theorem run_diff_sublist (a b : List α) : (diff.run a b).Sublist a := by
  induction a, b using Merge.induction with
  | done b => exact List.Sublist.refl _
  | rest x a => exact List.Sublist.refl _
  | first x a y b h ih => rw [run_of_lt _ h]; exact ih.cons_cons x
  | second x a y b h ih => rw [run_of_gt _ h]; exact ih
  | both x a b ih => rw [run_of_eq]; exact ih.cons x

theorem mem_run_diff {c : α} {a b : List α} (ha : a.Pairwise (· < ·))
    (hb : b.Pairwise (· < ·)) : c ∈ diff.run a b ↔ c ∈ a ∧ c ∉ b := by
  induction a, b using Merge.induction with
  | done b => simp [diff]
  | rest x a => simp [diff]
  | first x a y b h ih =>
    have hx : x ∉ y :: b := not_mem_of_lt_head hb h
    rw [run_of_lt _ h]
    simp only [diff, List.mem_cons] at ih hx ⊢
    grind [ih ha.of_cons hb]
  | second x a y b h ih =>
    have hy : y ∉ x :: a := not_mem_of_lt_head ha h
    rw [run_of_gt _ h]
    simp only [diff, List.mem_cons] at ih hy ⊢
    grind [ih ha hb.of_cons]
  | both x a b ih =>
    have hx : x ∉ a := not_mem_tail ha
    rw [run_of_eq]
    simp only [diff, List.mem_cons] at ih ⊢
    grind [ih ha.of_cons hb.of_cons]

theorem run_subset {a b : List α} (ha : a.Pairwise (· < ·)) (hb : b.Pairwise (· < ·)) :
    subset.run a b = true ↔ ∀ c ∈ a, c ∈ b := by
  induction a, b using Merge.induction with
  | done b => simp [subset]
  | rest x a =>
    refine iff_of_false (by simp [subset]) fun h => ?_
    exact List.not_mem_nil (h x List.mem_cons_self)
  | first x a y b h ih =>
    have hx : x ∉ y :: b := not_mem_of_lt_head hb h
    rw [run_of_lt _ h]
    exact iff_of_false Bool.false_ne_true fun hsub => hx (hsub x List.mem_cons_self)
  | second x a y b h ih =>
    have hy : y ∉ x :: a := not_mem_of_lt_head ha h
    rw [run_of_gt _ h]
    simp only [subset, List.mem_cons] at ih hy ⊢
    grind [ih ha hb.of_cons]
  | both x a b ih =>
    have hx : x ∉ a := not_mem_tail ha
    rw [run_of_eq]
    simp only [subset, List.mem_cons] at ih ⊢
    grind [ih ha.of_cons hb.of_cons]

theorem sublist_of_run_subset {a b : List α} (h : subset.run a b = true) : a.Sublist b := by
  induction a, b using Merge.induction with
  | done b => exact List.nil_sublist b
  | rest x a => exact absurd h (by simp [subset])
  | first x a y b hxy ih =>
    rw [run_of_lt _ hxy] at h
    cases h
  | second x a y b hyx ih =>
    rw [run_of_gt _ hyx] at h
    exact (ih h).cons y
  | both x a b ih =>
    rw [run_of_eq] at h
    exact (ih h).cons_cons x

theorem run_subset_self (a : List α) : subset.run a a = true := by
  induction a with
  | nil => rfl
  | cons x a ih => rwa [run_of_eq]

end Merge

section Sorting

variable [LT α] [DecidableLT α]

@[simp] theorem mem_ofList [DecidableEq α] {a : α} {l : List α} : a ∈ ofList l ↔ a ∈ l := by
  simp [ofList, sortList]

variable [IsStrictTotalOrder α (· < ·)]

theorem pairwise_sortList (l : List α) : (sortList l).Pairwise fun a b => ¬ b < a := by
  have htrans (a b c : α) (hab : ¬ b < a) (hbc : ¬ c < b) : ¬ c < a := by
    intro hca
    by_cases h : a < b
    · exact hbc (trans_of _ hca h)
    · exact hbc (eq_of_not_lt h hab ▸ hca)
  have htotal (a b : α) : ¬ b < a ∨ ¬ a < b := by
    by_cases h : b < a
    · exact .inr (asymm_of _ h)
    · exact .inl h
  have h : (sortList l).Pairwise fun a b => decide (¬ b < a) = true :=
    List.pairwise_mergeSort (by simpa using htrans) (by simpa using htotal) l
  exact h.imp (by simp)

theorem pairwise_dropRepeats [DecidableEq α] {l : List α} (h : l.Pairwise fun a b => ¬ b < a) :
    (dropRepeats l).Pairwise (· < ·) := by
  induction l using dropRepeats.induct with
  | case1 => simp [dropRepeats]
  | case2 b => simp [dropRepeats]
  | case3 b l ih => simpa [dropRepeats] using ih h.of_cons
  | case4 b c l hbc ih =>
    rw [dropRepeats, if_neg hbc]
    refine List.pairwise_cons.2 ⟨fun d hd => ?_, ih h.of_cons⟩
    have hlt : b < c := by
      by_contra hlt
      exact hbc (eq_of_not_lt hlt (List.rel_of_pairwise_cons h List.mem_cons_self))
    rcases List.mem_cons.1 (mem_dropRepeats.1 hd) with rfl | hd
    · exact hlt
    · by_contra hbd
      by_cases hcd : c < d
      · exact hbd (trans_of _ hlt hcd)
      · have hdc := List.rel_of_pairwise_cons h.of_cons hd
        exact hbd (eq_of_not_lt hcd hdc ▸ hlt)

theorem normal_ofList [DecidableEq α] (l : List α) : (ofList l).Normal :=
  pairwise_dropRepeats (pairwise_sortList l)

theorem ofList_eq_mk [DecidableEq α] {l : List α} (h : l.Pairwise (· < ·)) : ofList l = ⟨l⟩ :=
  (normal_ofList l).ext h fun _ => mem_ofList

end Sorting

section Algebra

variable [LT α] [DecidableLT α] [IsStrictTotalOrder α (· < ·)] {s t : SortedSet α} {a : α}

@[simp] theorem mem_union : a ∈ s.union t ↔ a ∈ s ∨ a ∈ t := Merge.mem_run_union _ _

theorem Normal.union (hs : s.Normal) (ht : t.Normal) : (s.union t).Normal :=
  Merge.pairwise_run_union hs ht

theorem mem_inter (hs : s.Normal) (ht : t.Normal) : a ∈ s.inter t ↔ a ∈ s ∧ a ∈ t :=
  Merge.mem_run_inter hs ht

theorem Normal.inter (hs : s.Normal) : (s.inter t).Normal :=
  normal_of_sublist hs (Merge.run_inter_sublist _ _)

theorem mem_diff (hs : s.Normal) (ht : t.Normal) : a ∈ s.diff t ↔ a ∈ s ∧ a ∉ t :=
  Merge.mem_run_diff hs ht

theorem Normal.diff (hs : s.Normal) : (s.diff t).Normal :=
  normal_of_sublist hs (Merge.run_diff_sublist _ _)

theorem isSubset_iff (hs : s.Normal) (ht : t.Normal) : s.isSubset t = true ↔ s ⊆ t := by
  have hrun : Merge.subset.run s.items t.items = true ↔ s ⊆ t := Merge.run_subset hs ht
  by_cases hsize : t.size < s.size
  · refine iff_of_false (by simp [isSubset, hsize]) fun h => ?_
    exact Nat.not_lt.2 (hs.size_le h) hsize
  · rw [isSubset, if_neg hsize, hrun]

theorem size_ne_iff_not_isSubset (h : s.isSubset t = true) :
    s.size ≠ t.size ↔ ¬ t.isSubset s = true := by
  have hle {s t : SortedSet α} (h : s.isSubset t = true) : s.items.Sublist t.items := by
    unfold isSubset at h
    split at h
    · cases h
    · exact Merge.sublist_of_run_subset h
  refine not_congr ⟨fun hsize => ?_, fun h' => le_antisymm (hle h).length_le (hle h').length_le⟩
  have heq : s = t := congrArg mk ((hle h).eq_of_length hsize)
  rw [heq, isSubset, if_neg (lt_irrefl _)]
  exact Merge.run_subset_self t.items

theorem isSuperset_iff (hs : s.Normal) (ht : t.Normal) : s.isSuperset t = true ↔ t ⊆ s :=
  isSubset_iff ht hs

theorem isDisjoint_iff (hs : s.Normal) (ht : t.Normal) :
    s.isDisjoint t = true ↔ ∀ a ∈ s, a ∉ t := by
  have hrun : s.isDisjoint t = true ↔ (s.inter t).items = [] := Merge.run_disjoint _ _
  rw [hrun, List.eq_nil_iff_forall_not_mem]
  exact forall_congr' fun a => (mem_inter hs ht).not.trans not_and

end Algebra

end AnswerSetLearning.SortedSet
