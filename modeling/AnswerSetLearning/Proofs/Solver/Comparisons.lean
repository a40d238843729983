import AnswerSetLearning.Proofs.Solver.Bounds
import AnswerSetLearning.Proofs.Solver.Semantics

namespace AnswerSetLearning.Solver

namespace Term

variable {s t : Term} {m n : Int}

/-- The term stands in the order where numbers from `n` on stand, or behind all numbers. -/
def AtLeast (n : Int) (t : Term) : Prop := (∃ k, n ≤ k ∧ t = .number k) ∨ 1 < t.rank

def AtMost (n : Int) (t : Term) : Prop := (∃ k, k ≤ n ∧ t = .number k) ∨ t.rank < 1

theorem order_self (t : Term) : t.order t = .eq := by
  induction t with
  | apply f a hf ha => simp [order, compareFunctions, hf, ha]
  | _ => simp [order]

theorem lt_irrefl (t : Term) : ¬ t < t := fun h => by
  cases (order_self t).symm.trans h

theorem rank_le_of_lt (h : s < t) : s.rank ≤ t.rank := by
  change s.order t = .lt at h
  unfold order at h
  split at h
  · exact le_rfl
  · exact le_rfl
  · exact le_rfl
  · exact le_rfl
  · exact le_rfl
  · exact (Nat.compare_eq_lt.1 h).le

theorem rank_eq_one (h : t.rank = 1) : ∃ n, t = .number n := by
  cases t with
  | number n => exact ⟨n, rfl⟩
  | _ => cases h

theorem number_lt_iff : number m < number n ↔ m < n := Int.compare_eq_lt

theorem atLeast_number (n : Int) : AtLeast n (.number n) := .inl ⟨n, le_rfl, rfl⟩

theorem atMost_number (n : Int) : AtMost n (.number n) := .inl ⟨n, le_rfl, rfl⟩

theorem AtLeast.rank_pos (h : AtLeast n t) : 1 ≤ t.rank := by
  rcases h with ⟨k, -, rfl⟩ | h
  · exact le_rfl
  · exact h.le

theorem AtMost.rank_le (h : AtMost n t) : t.rank ≤ 1 := by
  rcases h with ⟨k, -, rfl⟩ | h
  · exact le_rfl
  · exact h.le

theorem AtLeast.of_lt (h : s < t) (hs : AtLeast n s) : AtLeast (n + 1) t := by
  have hrank := rank_le_of_lt h
  rcases hs with ⟨k, hk, rfl⟩ | hs
  · rcases hrank.lt_or_eq with hlt | heq
    · exact .inr hlt
    · obtain ⟨j, rfl⟩ := rank_eq_one heq.symm
      have := number_lt_iff.1 h
      exact .inl ⟨j, by omega, rfl⟩
  · exact .inr (hs.trans_le hrank)

theorem AtMost.of_lt (h : s < t) (ht : AtMost m t) : AtMost (m - 1) s := by
  have hrank := rank_le_of_lt h
  rcases ht with ⟨k, hk, rfl⟩ | ht
  · rcases hrank.lt_or_eq with hlt | heq
    · exact .inr hlt
    · obtain ⟨j, rfl⟩ := rank_eq_one heq
      have := number_lt_iff.1 h
      exact .inl ⟨j, by omega, rfl⟩
  · exact .inr (hrank.trans_lt ht)

theorem AtLeast.exists_number (h : AtLeast m t) (h' : AtMost n t) :
    ∃ k, m ≤ k ∧ k ≤ n ∧ t = .number k := by
  obtain ⟨k, rfl⟩ := rank_eq_one (le_antisymm h'.rank_le h.rank_pos)
  rcases h with ⟨i, hi, heq⟩ | h
  · obtain rfl := Term.number.inj heq
    rcases h' with ⟨j, hj, heq⟩ | h'
    · obtain rfl := Term.number.inj heq
      exact ⟨_, hi, hj, rfl⟩
    · cases h'.ne rfl
  · cases h.ne rfl

end Term

def Valuation.law (v : Valuation) : BoundLaw where
  lower x n := Term.AtLeast n (v x)
  upper x n := Term.AtMost n (v x)

namespace Inequality

variable {v : Valuation} {left right : Arg} {s t : Term} {q : Inequality}

theorem closedUnder_of_lt {a b : Int} (h : s < t) (hleast : q.least = a + 1 - b)
    (hlowest : ∀ n, v.law.Lowest q n → Term.AtLeast (n + a) s)
    (hhighest : ∀ m, v.law.Highest q m → Term.AtMost (m + b) t)
    (hplus : ∀ y, q.plus = some y → v y = t ∧ b = 0)
    (hminus : ∀ x, q.minus = some x → v x = s ∧ a = 0) : v.law.ClosedUnder q where
  lower y n hy hn := by
    obtain ⟨rfl, rfl⟩ := hplus y hy
    have ht := (hlowest n hn).of_lt h
    rwa [show n + a + 1 = q.least + n by omega] at ht
  upper x m hx hm := by
    obtain ⟨rfl, rfl⟩ := hminus x hx
    have hs := (hhighest m hm).of_lt h
    rwa [show m + b - 1 = m - q.least by omega] at hs
  empty m n hm hn hlt := by
    obtain ⟨k, hlower, hupper, -⟩ := ((hlowest n hn).of_lt h).exists_number (hhighest m hm)
    omega

theorem atLeast_of_minus_none {n : Int} (h : q.minus = none) (hn : v.law.Lowest q n) (m : Int) :
    Term.AtLeast (n + m) (.number m) := by
  rw [BoundLaw.Lowest, h] at hn
  simpa [hn] using Term.atLeast_number m

theorem atLeast_of_minus {n : Int} {x : String} (h : q.minus = some x) (hn : v.law.Lowest q n) :
    Term.AtLeast (n + 0) (v x) := by
  rw [BoundLaw.Lowest, h] at hn
  simpa [Valuation.law] using hn

theorem atMost_of_plus_none {m : Int} (h : q.plus = none) (hm : v.law.Highest q m) (n : Int) :
    Term.AtMost (m + n) (.number n) := by
  rw [BoundLaw.Highest, h] at hm
  simpa [hm] using Term.atMost_number n

theorem atMost_of_plus {m : Int} {y : String} (h : q.plus = some y) (hm : v.law.Highest q m) :
    Term.AtMost (m + 0) (v y) := by
  rw [BoundLaw.Highest, h] at hm
  simpa [Valuation.law] using hm

theorem closedUnder_of_ofLess? (hq : ofLess? left right = some q) (hs : left.Matches v s)
    (ht : right.Matches v t) (h : s < t) : v.law.ClosedUnder q := by
  unfold ofLess? at hq
  split at hq
  · cases hq
    cases hs
    cases ht
    exact closedUnder_of_lt h rfl (fun _ hn => atLeast_of_minus_none rfl hn _)
      (fun _ hm => atMost_of_plus_none rfl hm _) (by simp) (by simp)
  · cases hq
    cases hs
    cases ht
    exact closedUnder_of_lt h (by simp) (fun _ hn => atLeast_of_minus_none rfl hn _)
      (fun _ hm => atMost_of_plus rfl hm) (by simp) (by simp)
  · cases hq
    cases hs
    cases ht
    exact closedUnder_of_lt h (by simp) (fun _ hn => atLeast_of_minus rfl hn)
      (fun _ hm => atMost_of_plus_none rfl hm _) (by simp) (by simp)
  · next x y =>
    cases hs
    cases ht
    -- no value is less than itself
    have hxy : x ≠ y := fun hxy => Term.lt_irrefl _ (hxy ▸ h)
    rw [if_neg hxy] at hq
    cases hq
    exact closedUnder_of_lt h (by simp) (fun _ hn => atLeast_of_minus rfl hn)
      (fun _ hm => atMost_of_plus rfl hm) (by simp) (by simp)
  · cases hq

theorem closedUnder_of_ofTest? {test : Test} (htest : test.Holds v) (hq : ofTest? test = some q) :
    v.law.ClosedUnder q := by
  obtain ⟨s, t, hs, ht, hholds⟩ := htest
  unfold ofTest? at hq
  split at hq
  · cases hq
  · next hrel =>
    rw [hrel] at hholds
    exact closedUnder_of_ofLess? hq ht hs (of_decide_eq_true hholds)
  · next hrel =>
    rw [hrel] at hholds
    exact closedUnder_of_ofLess? hq hs ht (of_decide_eq_true hholds)

end Inequality

theorem exists_number_of_mem_rangesOf {v : Valuation} {tests : List Test}
    (h : ∀ t ∈ tests, t.Holds v) {x : String} {ns : List Int} (hmem : (x, ns) ∈ rangesOf tests) :
    ∃ n ∈ ns, v x = .number n := by
  obtain ⟨l, u, hl, hu, hns⟩ := exists_of_mem_rangesOf
    (fun t ht _ hq => Inequality.closedUnder_of_ofTest? (h t ht) hq) hmem
  obtain ⟨k, hlk, hku, hk⟩ := Term.AtLeast.exists_number hl hu
  exact ⟨k, (hns k).2 ⟨hlk, hku⟩, hk⟩

end AnswerSetLearning.Solver
