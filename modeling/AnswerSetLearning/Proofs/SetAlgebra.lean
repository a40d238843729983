import Mathlib
import AnswerSetLearning.Literal
import AnswerSetLearning.Proofs.SortedSet

universe u

namespace AnswerSetLearning

instance isStrictTotalOrder_list {α : Type u} [LT α] [IsStrictTotalOrder α (· < ·)] :
    IsStrictTotalOrder (List α) (· < ·) where
  trichotomous := (List.Lex.trichotomous (α := α) (· < ·)).trichotomous
  irrefl a h := List.lt_irrefl a h
  trans _ _ _ := List.lt_trans

def Literal.toPair (l : Literal) : String ×ₗ List String := toLex (l.predicate, l.args)

theorem Literal.toPair_lt_toPair {l m : Literal} : l.toPair < m.toPair ↔ l < m :=
  Prod.Lex.toLex_lt_toLex

instance Literal.isStrictTotalOrder : IsStrictTotalOrder Literal (· < ·) :=
  RelEmbedding.isStrictTotalOrder (s := fun a b : String ×ₗ List String => a < b)
    { toFun := Literal.toPair
      inj' := fun ⟨_, _⟩ ⟨_, _⟩ h => by cases h; rfl
      map_rel_iff' := Literal.toPair_lt_toPair }

namespace SortedSet

variable {α : Type u} [LT α]

instance isStrictTotalOrder [IsStrictTotalOrder α (· < ·)] :
    IsStrictTotalOrder (SortedSet α) (· < ·) :=
  RelEmbedding.isStrictTotalOrder (s := fun a b : List α => a < b)
    { toFun := items
      inj' := fun ⟨_⟩ ⟨_⟩ h => by cases h; rfl
      map_rel_iff' := Iff.rfl }

theorem mem_foldl_insert {β : Type u} {s : SortedSet β} {l : List β} {a : β} :
    a ∈ l.foldl insert s ↔ a ∈ s ∨ a ∈ l := by
  induction l generalizing s with
  | nil => simp
  | cons b l ih => rw [List.foldl_cons, ih]; simp [insert, mem_def, or_assoc]

section Made

variable [DecidableLT α] [DecidableEq α]

/-- The set is made by the operations. Whatever is inserted is followed by a rebuild before the
set is used. -/
inductive Made : SortedSet α → Prop
  | ofList (l : List α) : Made (ofList l)
  | rebuild {s} (hs : Made s) (inserted : List α) : Made (inserted.foldl insert s).rebuild
  | union {s t} (hs : Made s) (ht : Made t) : Made (s.union t)
  | inter {s t} (hs : Made s) (ht : Made t) : Made (s.inter t)
  | diff {s t} (hs : Made s) (ht : Made t) : Made (s.diff t)

variable {s t : SortedSet α} {a : α}

theorem mem_rebuild : a ∈ s.rebuild ↔ a ∈ s := mem_ofList

variable [IsStrictTotalOrder α (· < ·)]

theorem Made.normal (hs : Made s) : s.Normal := by
  induction hs with
  | ofList l => exact normal_ofList l
  | rebuild _ inserted _ => exact normal_ofList _
  | union _ _ hs ht => exact hs.union ht
  | inter _ _ hs _ => exact hs.inter
  | diff _ _ hs _ => exact hs.diff

theorem Made.eq_iff (hs : Made s) (ht : Made t) : s = t ↔ ∀ a, a ∈ s ↔ a ∈ t :=
  ⟨fun h _ => h ▸ Iff.rfl, hs.normal.ext ht.normal⟩

theorem distinct_ofList {sets : List (SortedSet α)} (h : ∀ s ∈ sets, Made s) :
    (ofList sets).items.Pairwise fun s t => ¬ ∀ a, a ∈ s ↔ a ∈ t := by
  have hmade (s) (hs : s ∈ (ofList sets).items) : Made s := h s (mem_ofList.1 hs)
  refine (normal_ofList sets).imp_of_mem fun {s t} hs ht hlt hsame => ?_
  rw [((hmade s hs).eq_iff (hmade t ht)).2 hsame] at hlt
  exact irrefl_of (· < ·) t hlt

end Made

/-- A set that is made from elements of any strict total order is strictly increasing; making and
rebuilding keep the elements, and the operations are those of set algebra. The sets are again in
strict total order, and sets of them hold no two with the same elements. -/
theorem made_algebra [DecidableLT α] [DecidableEq α] [IsStrictTotalOrder α (· < ·)] :
    (∀ s : SortedSet α, Made s → s.items.Pairwise (· < ·)) ∧
    (∀ (l : List α) (a : α), a ∈ ofList l ↔ a ∈ l) ∧
    (∀ (s : SortedSet α) (inserted : List α) (a : α),
      a ∈ (inserted.foldl insert s).rebuild ↔ a ∈ s ∨ a ∈ inserted) ∧
    (∀ s t : SortedSet α, Made s → Made t →
      (∀ a, (a ∈ s.union t ↔ a ∈ s ∨ a ∈ t) ∧ (a ∈ s.inter t ↔ a ∈ s ∧ a ∈ t) ∧
        (a ∈ s.diff t ↔ a ∈ s ∧ a ∉ t)) ∧
      (s.union t).Normal ∧ (s.inter t).Normal ∧ (s.diff t).Normal ∧
      (s.isSubset t = true ↔ s ⊆ t) ∧ (s.isSuperset t = true ↔ t ⊆ s) ∧
      (s.isDisjoint t = true ↔ ∀ a ∈ s, a ∉ t) ∧ (s = t ↔ ∀ a, a ∈ s ↔ a ∈ t)) ∧
    IsStrictTotalOrder (SortedSet α) (· < ·) ∧
    ∀ sets : List (SortedSet α), (∀ s ∈ sets, Made s) →
      (∀ s, s ∈ ofList sets ↔ s ∈ sets) ∧
        (ofList sets).items.Pairwise fun s t => s < t ∧ ¬ ∀ a, a ∈ s ↔ a ∈ t := by
  refine ⟨fun s hs => hs.normal, fun _ _ => mem_ofList, fun _ _ _ => ?_, fun s t hs ht => ?_,
    inferInstance, fun sets hsets => ⟨fun _ => mem_ofList, ?_⟩⟩
  · rw [mem_rebuild, mem_foldl_insert]
  · have hs' := hs.normal
    have ht' := ht.normal
    exact ⟨fun _ => ⟨mem_union, mem_inter hs' ht', mem_diff hs' ht'⟩, hs'.union ht', hs'.inter,
      hs'.diff, isSubset_iff hs' ht', isSuperset_iff hs' ht', isDisjoint_iff hs' ht',
      hs.eq_iff ht⟩
  · exact List.pairwise_and_iff.2 ⟨normal_ofList sets, distinct_ofList hsets⟩

def repeatedSets : List (SortedSet Literal) :=
  [ofList [⟨"q", ["X"]⟩, ⟨"p", []⟩, ⟨"q", ["X"]⟩], ofList [⟨"p", []⟩],
    ofList [⟨"p", []⟩, ⟨"q", ["X"]⟩]]

theorem ofList_repeatedSets :
    ofList repeatedSets = ⟨[⟨[⟨"p", []⟩]⟩, ⟨[⟨"p", []⟩, ⟨"q", ["X"]⟩]⟩]⟩ ∧
      ((ofList repeatedSets).isSubset (ofList repeatedSets.tail) = true ↔
        ofList repeatedSets ⊆ ofList repeatedSets.tail) ∧
      (ofList repeatedSets).items.Pairwise fun s t => s < t ∧ ¬ ∀ a, a ∈ s ↔ a ∈ t := by
  have hmade : ∀ s ∈ repeatedSets, Made s :=
    List.forall_mem_cons.2 ⟨.ofList _, List.forall_mem_cons.2 ⟨.ofList _,
      List.forall_mem_singleton.2 (.ofList _)⟩⟩
  obtain ⟨-, -, -, -, -, hdistinct⟩ := made_algebra (α := Literal)
  obtain ⟨-, -, -, halgebra, -⟩ := made_algebra (α := SortedSet Literal)
  refine ⟨by cbv, ?_, (hdistinct repeatedSets hmade).2⟩
  exact (halgebra _ _ (.ofList repeatedSets) (.ofList repeatedSets.tail)).2.2.2.2.1

end SortedSet

end AnswerSetLearning
