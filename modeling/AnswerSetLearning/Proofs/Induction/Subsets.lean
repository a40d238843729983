import Mathlib.Data.List.Range
import Mathlib.Data.List.Sort
import Mathlib.Data.Nat.Choose.Basic
import AnswerSetLearning.Induction.Subsets

universe u v

namespace AnswerSetLearning

variable {α : Type u} {β : Type v}

theorem mem_subsetsOfSize {k : Nat} {l s : List α} :
    s ∈ subsetsOfSize k l ↔ s.Sublist l ∧ s.length = k := by
  induction l generalizing k s with
  | nil =>
    cases k with
    | zero => simp +contextual [subsetsOfSize]
    | succ k => simp +contextual [subsetsOfSize]
  | cons a l ih =>
    cases k with
    | zero => simp +contextual [subsetsOfSize]
    | succ k =>
      rw [subsetsOfSize]
      split
      · next hshort =>
        refine iff_of_false List.not_mem_nil fun h => ?_
        have hlen := h.1.length_le
        simp only [List.length_cons] at hlen
        omega
      · rw [List.mem_append, List.mem_map, List.sublist_cons_iff]
        simp only [ih]
        grind

theorem subsetsOfSize_eq_nil {k : Nat} {l : List α} (h : l.length < k) :
    subsetsOfSize k l = [] := by
  rw [List.eq_nil_iff_forall_not_mem]
  intro s hs
  obtain ⟨hsub, rfl⟩ := mem_subsetsOfSize.1 hs
  exact Nat.not_lt.2 hsub.length_le h

@[simp] theorem subsetsOfSize_zero (l : List α) : subsetsOfSize 0 l = [[]] := by
  cases l <;> rfl

theorem subsetsOfSize_cons (k : Nat) (a : α) (l : List α) :
    subsetsOfSize (k + 1) (a :: l) =
      (subsetsOfSize k l).map (a :: ·) ++ subsetsOfSize (k + 1) l := by
  rw [subsetsOfSize]
  split
  · next h => rw [subsetsOfSize_eq_nil h, subsetsOfSize_eq_nil (Nat.lt_succ_of_lt h)]; rfl
  · rfl

theorem length_subsetsOfSize (k : Nat) (l : List α) :
    (subsetsOfSize k l).length = l.length.choose k := by
  induction l generalizing k with
  | nil => cases k <;> rfl
  | cons a l ih =>
    cases k with
    | zero => simp
    | succ k =>
      rw [subsetsOfSize_cons, List.length_append, List.length_map, ih, ih, List.length_cons,
        Nat.choose_succ_succ]

theorem subsetsOfSize_map (f : α → β) (k : Nat) (l : List α) :
    subsetsOfSize k (l.map f) = (subsetsOfSize k l).map (List.map f) := by
  induction l generalizing k with
  | nil => cases k <;> rfl
  | cons a l ih =>
    cases k with
    | zero => simp
    | succ k =>
      rw [List.map_cons, subsetsOfSize_cons, subsetsOfSize_cons, ih, ih, List.map_append,
        List.map_map, List.map_map]
      rfl

theorem pairwise_subsetsOfSize [LT α] {l : List α} (hl : l.Pairwise (· < ·)) (k : Nat) :
    (subsetsOfSize k l).Pairwise (· < ·) := by
  induction l generalizing k with
  | nil => cases k <;> simp [subsetsOfSize]
  | cons a l ih =>
    cases k with
    | zero => simp
    | succ k =>
      rw [subsetsOfSize_cons, List.pairwise_append, List.pairwise_map]
      refine ⟨(ih hl.of_cons k).imp fun h => List.cons_lt_cons_iff.2 (.inr ⟨rfl, h⟩),
        ih hl.of_cons (k + 1), fun s hs t ht => ?_⟩
      obtain ⟨s, -, rfl⟩ := List.mem_map.1 hs
      obtain ⟨hsub, hlen⟩ := mem_subsetsOfSize.1 ht
      obtain ⟨b, t, rfl⟩ := List.exists_cons_of_length_eq_add_one hlen
      have hab : a < b := List.rel_of_pairwise_cons hl (hsub.subset List.mem_cons_self)
      exact List.cons_lt_cons_iff.2 (.inl hab)

theorem takeSubsets_eq_take (room k : Nat) (l : List α) :
    takeSubsets room k l = (subsetsOfSize k l).take room := by
  induction l generalizing room k with
  | nil => cases k <;> simp [takeSubsets, subsetsOfSize]
  | cons a l ih =>
    cases k with
    | zero => rw [takeSubsets, subsetsOfSize_zero]
    | succ k =>
      rw [takeSubsets]
      split
      · next h =>
        rcases h with rfl | h
        · rfl
        · rw [subsetsOfSize_eq_nil (by simpa using Nat.succ_lt_succ h), List.take_nil]
      · have hroom (n : Nat) : room - min room n = room - n := by omega
        simp only [ih]
        rw [subsetsOfSize_cons, List.take_append, ← List.map_take, List.length_map,
          List.length_map, List.length_take, hroom]

structure IsSelection (n : Nat) (k : Int) (is : List Nat) : Prop where
  length : (is.length : Int) = k
  increasing : is.Pairwise (· < ·)
  below : ∀ i ∈ is, i < n

theorem mem_subsetsOfSize_range {n k : Nat} {is : List Nat} :
    is ∈ subsetsOfSize k (List.range n) ↔ IsSelection n k is := by
  have hrange : (List.range n).Pairwise (· < ·) := List.pairwise_lt_range
  rw [mem_subsetsOfSize]
  constructor
  · rintro ⟨hsub, rfl⟩
    exact ⟨rfl, hrange.sublist hsub, fun i hi => List.mem_range.1 (hsub.subset hi)⟩
  · rintro ⟨hlen, hincreasing, hbelow⟩
    have hsubset : is ⊆ List.range n := fun i hi => List.mem_range.2 (hbelow i hi)
    have hperm := List.subperm_of_subset (hincreasing.imp Nat.ne_of_lt) hsubset
    exact ⟨List.sublist_of_subperm_of_pairwise hperm hincreasing hrange, by exact_mod_cast hlen⟩

theorem subsetsOfSize_eq_positions (k : Nat) (l : List α) :
    (subsetsOfSize k l).map (List.map some) =
      (subsetsOfSize k (List.range l.length)).map (List.map (l[·]?)) := by
  have hpositions : l.map some = (List.range l.length).map (l[·]?) := by
    apply List.ext_getElem?
    intro i
    by_cases hi : i < l.length
    · simp [hi]
    · simp [Nat.not_lt.1 hi]
  rw [← subsetsOfSize_map, ← subsetsOfSize_map, hpositions]

namespace Odometer

/-- The next list of positions: the last wheel that is not yet at its end moves on, and the wheels
after it start right behind it. -/
def next? (n : Nat) : List Nat → Option (List Nat)
  | [] => none
  | i :: is =>
    match next? n is with
    | some js => some (i :: js)
    | none => if i + is.length + 1 = n then none else some (List.range' (i + 1) (is.length + 1))

/-- What the odometer shows from a list of positions on, until no wheel moves any more. -/
inductive Shows (n : Nat) : List Nat → List (List Nat) → Prop
  | last {is} : next? n is = none → Shows n is [is]
  | next {is js shown} : next? n is = some js → Shows n js shown → Shows n is (is :: shown)

theorem length_next? {n : Nat} {is js : List Nat} (h : next? n is = some js) :
    js.length = is.length := by
  induction is generalizing js with
  | nil => cases h
  | cons i is ih =>
    rw [next?] at h
    split at h
    · next js' hjs => cases h; simp [ih hjs]
    · split at h
      · cases h
      · cases h; simp

theorem Shows.cons {n i : Nat} {is : List Nat} {shown rest : List (List Nat)} (h : Shows n is shown)
    (hrest : if i + is.length + 1 = n then rest = []
      else Shows n (List.range' (i + 1) (is.length + 1)) rest) :
    Shows n (i :: is) (shown.map (i :: ·) ++ rest) := by
  induction h with
  | @last is hlast =>
    -- Only here the wheel in front moves, unless the wheels fill the positions up to the end.
    split at hrest
    · next hend =>
      subst hrest
      exact .last (by simp [next?, hlast, hend])
    · next hend => exact .next (by simp [next?, hlast, hend]) hrest
  | @next is js shown hnext _ ih =>
    rw [← length_next? hnext] at hrest
    exact .next (by simp [next?, hnext]) (ih hrest)

theorem shows_subsetsOfSize (lo k m : Nat) (h : k ≤ m) :
    Shows (lo + m) (List.range' lo k) (subsetsOfSize k (List.range' lo m)) := by
  induction m generalizing lo k with
  | zero =>
    obtain rfl := Nat.le_zero.1 h
    exact .last rfl
  | succ m ih =>
    cases k with
    | zero => exact .last rfl
    | succ k =>
      -- The first wheel stands at `lo`, the others run behind it; then all start from `lo + 1`.
      have hn : lo + (m + 1) = lo + 1 + m := by omega
      rw [List.range'_succ, List.range'_succ, subsetsOfSize_cons, hn]
      refine (ih (lo + 1) k (by omega)).cons ?_
      rw [List.length_range']
      split
      · exact subsetsOfSize_eq_nil (by rw [List.length_range']; omega)
      · exact ih (lo + 1) (k + 1) (by omega)

end Odometer

/-- The sublists of length `k` are those at the increasing lists of `k` positions, in lexicographic
order and each once, as the odometer shows them; where only some are asked for, it is stopped. -/
theorem subsets_eq_positions (items : List α) (k : Int) :
    ∃ positions : List (List Nat),
      (subsets items k none).map (List.map some) = positions.map (List.map (items[·]?)) ∧
      (∀ is, is ∈ positions ↔ IsSelection items.length k is) ∧
      positions.Pairwise (· < ·) ∧ positions.Nodup ∧
      (if k < 0 ∨ items.length < k then positions = []
        else Odometer.Shows items.length (List.range k.toNat) positions) ∧
      (subsets items k none).length = (if k < 0 then 0 else items.length.choose k.toNat) ∧
      (subsets items k none = [[]] ↔ k = 0) ∧
      (subsets items k none = [] ↔ k < 0 ∨ items.length < k) ∧
      ∀ room, subsets items k (some room) = (subsets items k none).take room := by
  by_cases hk : k < 0
  · refine ⟨[], ?_⟩
    have hsubsets (room : Option Nat) : subsets items k room = [] := if_pos hk
    have hnone (is : List Nat) : ¬ IsSelection items.length k is := fun h => by
      have hlength := h.length
      omega
    simp [hsubsets, hnone, hk, hk.ne]
  · obtain ⟨k, rfl⟩ := Int.eq_ofNat_of_zero_le (Int.not_lt.1 hk)
    have hall : subsets items k none = subsetsOfSize k items := by simp [subsets]
    have hroom (room : Nat) : subsets items k (some room) = takeSubsets room k items := by
      simp [subsets]
    have hsorted := pairwise_subsetsOfSize (List.pairwise_lt_range (n := items.length)) k
    have hlength := length_subsetsOfSize k items
    refine ⟨subsetsOfSize k (List.range items.length), ?_, fun is => mem_subsetsOfSize_range,
      hsorted, hsorted.imp fun h => (ne_of_lt h), ?_, ?_, ?_, ?_, fun room => ?_⟩
    · rw [hall, subsetsOfSize_eq_positions]
    · split
      · next h => exact subsetsOfSize_eq_nil (by rw [List.length_range]; omega)
      · next h =>
        have hshows := Odometer.shows_subsetsOfSize 0 k items.length (by omega)
        rwa [Nat.zero_add, ← List.range_eq_range', ← List.range_eq_range'] at hshows
    · rw [hall, if_neg hk, hlength]
      rfl
    · rw [hall]
      constructor
      · intro h
        obtain ⟨-, hlen⟩ := mem_subsetsOfSize.1 (h ▸ List.mem_singleton_self ([] : List α))
        simpa using hlen.symm
      · rintro h
        obtain rfl : k = 0 := by exact_mod_cast h
        exact subsetsOfSize_zero items
    · rw [hall, ← List.length_eq_zero_iff, hlength, Nat.choose_eq_zero_iff]
      omega
    · rw [hroom, hall, takeSubsets_eq_take]

example : subsets ["a", "b", "c", "d"] 2 (some 4) =
    [["a", "b"], ["a", "c"], ["a", "d"], ["b", "c"]] := by decide

end AnswerSetLearning
