import AnswerSetLearning.Command.Statistics
import AnswerSetLearning.Proofs.Rounding

namespace AnswerSetLearning

variable {num den : Nat}

theorem nearestBits_lt (hnum : num ≤ 1 <<< 73) (hden : 0 < den) :
    nearestBits num den < infinityBits := by
  by_cases hzero : num = 0
  · rw [nearestBits, if_pos hzero]
    decide
  obtain ⟨k, m, hulp, hround, hbits⟩ := exists_ulp hzero hden
  have hsignificand := (hulp.significand hround).1
  have hk : k ≤ 1095 := by
    rcases hulp.le with rfl | hle
    · exact Nat.zero_le _
    have hquotient : ((2 ^ 52 : ℕ) : ℚ) * ulp k ≤ 2 ^ 73 :=
      calc ((2 ^ 52 : ℕ) : ℚ) * ulp k ≤ num / den := hle
        _ ≤ num := div_le_self (Nat.cast_nonneg _) (by exact_mod_cast hden)
        _ ≤ 2 ^ 73 := by exact_mod_cast hnum
    rw [← ulp_add, ulp, ← zpow_natCast, zpow_le_zpow_iff_right₀ one_lt_two] at hquotient
    omega
  rw [hbits]
  refine Nat.lt_of_le_of_lt (Nat.min_le_left _ _) ?_
  unfold infinityBits
  omega

namespace ByteSize

theorem inUnits_quotient_ne_none (places : Nat) (x : Float) {units : List String}
    (h : units ≠ []) : (quotient x).inUnits places units ≠ none := by
  induction units generalizing places x with
  | nil => exact absurd rfl h
  | cons unit units ih =>
    cases units with
    | nil => simp [inUnits, print?, per]
    | cons unit' units =>
      rw [inUnits]
      · split
        · simp [print?, per]
        · simpa [per] using ih 1 _ (by simp)
      · simp

theorem text?_ne_none {n : Int} (h : n.natAbs ≤ 1 <<< 73) : (count n).text? ≠ none := by
  have hquotient (den : Nat) (hden : 0 < den) : ∃ x, (count n).per den = some x :=
    ⟨_, if_neg (Nat.not_le.2 (nearestBits_lt h hden))⟩
  obtain ⟨x, hx⟩ := hquotient 1 (by decide)
  obtain ⟨y, hy⟩ := hquotient 1024 (by decide)
  rw [text?, inUnits]
  · split
    · simp [print?, hx]
    · rw [hy, Option.bind_some]
      exact inUnits_quotient_ne_none _ _ (by simp)
  · simp

end ByteSize

end AnswerSetLearning
