import Mathlib
import AnswerSetLearning.Proofs.Induction.Candidates

universe u

namespace AnswerSetLearning

def SortedSet.toSet {α : Type u} (s : SortedSet α) : Set α := {a | a ∈ s}

theorem SortedSet.Normal.toSet_inj {s t : LitSet} (hs : s.Normal) (ht : t.Normal) :
    s.toSet = t.toSet ↔ s = t :=
  ⟨fun h => hs.ext ht fun a => Set.ext_iff.1 h a, congrArg _⟩

theorem SortedSet.toSet_diff {s t : LitSet} (hs : s.Normal) (ht : t.Normal) :
    (s.diff t).toSet = s.toSet \ t.toSet :=
  Set.ext fun _ => mem_diff hs ht

theorem SortedSet.exists_toSet_eq {F : Set Lit} {s : LitSet} (h : F ⊆ s.toSet) :
    ∃ c : LitSet, c.Normal ∧ c.toSet = F := by
  classical
  refine ⟨.ofList (s.items.filter (· ∈ F)), normal_ofList _, Set.ext fun i => ?_⟩
  change i ∈ SortedSet.ofList _ ↔ i ∈ F
  rw [mem_ofList, List.mem_filter, decide_eq_true_iff]
  exact and_iff_right_of_imp (h ·)

namespace Example

variable {e : Example}

/-- A set of literals that outputs add to the input, neither contained in what an output adds nor
containing it. -/
structure Spurious (e : Example) (F : Set Lit) : Prop where
  added : F ⊆ (⋃ s ∈ e.outputs, s.toSet) \ e.input.toSet
  not_subset : ∀ s ∈ e.outputs, ¬ F ⊆ s.toSet \ e.input.toSet
  not_superset : ∀ s ∈ e.outputs, ¬ s.toSet \ e.input.toSet ⊆ F

theorem toSet_added (he : e.Normal) :
    e.added.toSet = (⋃ s ∈ e.outputs, s.toSet) \ e.input.toSet := by
  ext i
  simpa [SortedSet.toSet] using mem_added he

theorem spurious_toSet_iff (he : e.Normal) {c : LitSet} (hc : c.Normal) :
    e.Spurious c.toSet ↔ e.IsSpurious c := by
  have hadded : c ⊆ e.added ↔ c.toSet ⊆ (⋃ s ∈ e.outputs, s.toSet) \ e.input.toSet := by
    rw [← toSet_added he]
    rfl
  have hcompared (s) (hs : s ∈ e.outputs) :
      (¬ s.diff e.input ⊆ c ∧ ¬ c ⊆ s.diff e.input) ↔
        ¬ s.toSet \ e.input.toSet ⊆ c.toSet ∧ ¬ c.toSet ⊆ s.toSet \ e.input.toSet := by
    rw [← SortedSet.toSet_diff (he.outputs s hs) he.input]
    rfl
  rw [isSpurious_iff, and_iff_right hc, hadded, forall₂_congr hcompared]
  exact ⟨fun h => ⟨h.added, fun s hs => ⟨h.not_superset s hs, h.not_subset s hs⟩⟩,
    fun h => ⟨h.1, fun s hs => (h.2 s hs).2, fun s hs => (h.2 s hs).1⟩⟩

def candidatesOfSize (e : Example) (size : Nat) : List LitSet :=
  ((subsetsOfSize size e.added.items).map SortedSet.ofList).filter fun c =>
    !e.targets.any fun t => t.isSubset c || t.isSuperset c

theorem candidates_eq_flatMap (e : Example) :
    e.candidates = (List.range' 1 (e.added.size - 1)).flatMap e.candidatesOfSize := by
  rw [candidates_eq_filter, proposals, List.filter_flatMap]
  rfl

theorem mem_candidatesOfSize (he : e.Normal) {size : Nat} {c : LitSet} :
    c ∈ e.candidatesOfSize size ↔ e.IsSpurious c ∧ c.size = size := by
  rw [candidatesOfSize, List.mem_filter, mem_map_subsetsOfSize, isSpurious_iff]
  constructor
  · rintro ⟨⟨hc, hadded, hsize⟩, hkept⟩
    exact ⟨⟨hc, hadded, (keeps_iff he hc).1 hkept⟩, hsize⟩
  · rintro ⟨⟨hc, hadded, hkept⟩, hsize⟩
    exact ⟨⟨hc, hadded, hsize⟩, (keeps_iff he hc).2 hkept⟩

theorem candidatesOfSize_eq_nil (he : e.Normal) (hout : e.outputs ≠ []) {size : Nat}
    (h : size = 0 ∨ size = e.added.size) : e.candidatesOfSize size = [] := by
  rw [List.eq_nil_iff_forall_not_mem]
  intro c hc
  obtain ⟨hc, hsize⟩ := (mem_candidatesOfSize he).1 hc
  obtain ⟨-, -, hpos, hlt⟩ := mem_proposals.1 (hc.mem_proposals he hout)
  omega

theorem flatMap_candidatesOfSize (he : e.Normal) (hout : e.outputs ≠ []) :
    (List.range (e.added.size + 1)).flatMap e.candidatesOfSize = e.candidates := by
  have hnone := candidatesOfSize_eq_nil he hout (.inl rfl)
  have hall := candidatesOfSize_eq_nil he hout (.inr rfl)
  rw [candidates_eq_flatMap, List.range_eq_range', List.range'_succ, List.flatMap_cons, hnone,
    List.nil_append, Nat.zero_add]
  cases hsize : e.added.size with
  | zero =>
    -- Where nothing is added, the empty set is the full one.
    rfl
  | succ n =>
    rw [hsize] at hall
    rw [List.range'_1_concat, List.flatMap_append, List.flatMap_singleton, Nat.add_comm 1 n, hall,
      List.append_nil, Nat.add_sub_cancel]

theorem pairwise_candidatesOfSize (e : Example) (size : Nat) :
    (e.candidatesOfSize size).Pairwise (·.items < ·.items) := by
  refine List.Pairwise.filter _ (List.pairwise_map.2 ?_)
  refine (pairwise_subsetsOfSize e.normal_added size).imp_of_mem fun {s t} hs ht h => ?_
  have hnormal {s : List Lit} (hs : s ∈ subsetsOfSize size e.added.items) :=
    SortedSet.ofList_eq_mk (e.normal_added.sublist (mem_subsetsOfSize.1 hs).1)
  rwa [hnormal hs, hnormal ht]

theorem candidates_ordered (he : e.Normal) :
    e.candidates.Pairwise fun a b => a.size < b.size ∨ a.size = b.size ∧ a.items < b.items := by
  have hsize {size : Nat} {c : LitSet} (hc : c ∈ e.candidatesOfSize size) : c.size = size :=
    ((mem_candidatesOfSize he).1 hc).2
  rw [candidates_eq_flatMap, List.pairwise_flatMap]
  constructor
  · intro size _
    exact (e.pairwise_candidatesOfSize size).imp_of_mem fun ha hb h =>
      .inr ⟨(hsize ha).trans (hsize hb).symm, h⟩
  · refine (List.pairwise_lt_range' (s := 1)).imp fun hlt a ha b hb => .inl ?_
    rwa [hsize ha, hsize hb]

theorem nodup_candidates (he : e.Normal) : e.candidates.Nodup :=
  (candidates_ordered he).imp fun h heq => by
    subst heq
    exact h.elim (lt_irrefl _) fun h => List.lt_irrefl _ h.2

/-- The candidates are all the spurious sets, each once and in its normal form, by size and then
lexicographically; to list the empty and the full set as well would add none. -/
theorem candidates_enumerate (he : e.Normal) (hout : e.outputs ≠ []) :
    (∀ F : Set Lit, e.Spurious F ↔ ∃ c ∈ e.candidates, c.toSet = F) ∧
      (∀ c ∈ e.candidates, c.items.Pairwise (· < ·)) ∧
      e.candidates.Pairwise (fun a b => a.toSet ≠ b.toSet) ∧
      e.candidates.Pairwise (fun a b =>
        a.size < b.size ∨ a.size = b.size ∧ a.items < b.items) ∧
      (List.range (e.added.size + 1)).flatMap e.candidatesOfSize = e.candidates := by
  have hnormal (c) (hc : c ∈ e.candidates) := normal_of_mem_candidates he hc
  refine ⟨fun F => ?_, hnormal, ?_, candidates_ordered he, flatMap_candidatesOfSize he hout⟩
  · constructor
    · intro hF
      obtain ⟨c, hc, rfl⟩ := SortedSet.exists_toSet_eq (toSet_added he ▸ hF.added)
      exact ⟨c, ((spurious_toSet_iff he hc).1 hF).mem_candidates he hout, rfl⟩
    · rintro ⟨c, hc, rfl⟩
      exact (spurious_toSet_iff he (hnormal c hc)).2 (isSpurious_of_mem_candidates he hc)
  · exact (nodup_candidates he).imp_of_mem fun ha hb hne h =>
      hne (((hnormal _ ha).toSet_inj (hnormal _ hb)).1 h)

end Example

def sharedLetters : Example := ⟨⟨[2]⟩, [⟨[1, 2, 3, 4]⟩, ⟨[1, 2, 5]⟩]⟩

theorem sharedLetters_candidates :
    sharedLetters.candidates = [⟨[3, 5]⟩, ⟨[4, 5]⟩, ⟨[3, 4, 5]⟩] ∧
      sharedLetters.Spurious {3, 5} ∧ ¬ sharedLetters.Spurious {1, 3} := by
  have hcandidates : sharedLetters.candidates = [⟨[3, 5]⟩, ⟨[4, 5]⟩, ⟨[3, 4, 5]⟩] := by cbv
  obtain ⟨hspurious, -⟩ := Example.candidates_enumerate (e := sharedLetters) (by decide) (by decide)
  refine ⟨hcandidates, ?_, ?_⟩
  · rw [hspurious, hcandidates]
    refine ⟨⟨[3, 5]⟩, by decide, Set.ext fun i => ?_⟩
    simp [SortedSet.toSet]
  · rw [hspurious, hcandidates]
    rintro ⟨c, hc, hset⟩
    have hmem : (1 : Lit) ∈ c.toSet := by
      rw [hset]
      exact .inl rfl
    have hlacks : ∀ c ∈ [⟨[3, 5]⟩, ⟨[4, 5]⟩, ⟨[3, 4, 5]⟩], (1 : Lit) ∉ (c : LitSet) := by decide
    exact hlacks c hc hmem

end AnswerSetLearning
