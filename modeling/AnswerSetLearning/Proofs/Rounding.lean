import Mathlib
import AnswerSetLearning.Number.Binary64

namespace AnswerSetLearning

variable {num den m k : Nat} {q x : ℚ}

/-! ### The nearest natural number -/

structure RoundsTo (x : ℚ) (m : Nat) : Prop where
  close : |x - m| ≤ 1 / 2
  even : |x - m| = 1 / 2 → Even m

theorem divRound_cases (num den : Nat) :
    divRound num den = num / den ∧ 2 * (num % den) ≤ den ∨
      divRound num den = num / den + 1 ∧ den ≤ 2 * (num % den) := by
  unfold divRound
  dsimp only
  split
  · exact .inl ⟨rfl, by omega⟩
  · split
    · exact .inr ⟨rfl, by omega⟩
    · split
      · exact .inl ⟨rfl, by omega⟩
      · exact .inr ⟨rfl, by omega⟩

theorem even_divRound (h : 2 * (num % den) = den) : Even (divRound num den) := by
  rw [divRound, if_neg (by omega), if_neg (by omega), Nat.even_iff]
  split <;> omega

theorem roundsTo_divRound (num : Nat) (hden : 0 < den) :
    RoundsTo ((num : ℚ) / den) (divRound num den) := by
  have hpos : (0 : ℚ) < den := Nat.cast_pos.2 hden
  set part : ℚ := ((num % den : ℕ) : ℚ) / den with hpart
  have hsplit : (num : ℚ) / den = (num / den : ℕ) + part := by
    rw [hpart, ← mul_right_inj' hpos.ne', mul_add, mul_div_cancel₀ _ hpos.ne',
      mul_div_cancel₀ _ hpos.ne']
    exact_mod_cast (Nat.div_add_mod num den).symm
  have hhalf : part = 1 / 2 → Even (divRound num den) := by
    intro h
    rw [hpart, div_eq_div_iff hpos.ne' two_ne_zero] at h
    exact even_divRound (by exact_mod_cast (by linarith : (2 : ℚ) * (num % den : ℕ) = den))
  rcases divRound_cases num den with ⟨hround, hle⟩ | ⟨hround, hle⟩
  · have hdist : |(num : ℚ) / den - divRound num den| = part := by
      rw [hsplit, hround, add_sub_cancel_left, abs_of_nonneg (by positivity)]
    have hle : part ≤ 1 / 2 := by
      rw [hpart, div_le_div_iff₀ hpos two_pos]
      exact_mod_cast (by omega : num % den * 2 ≤ 1 * den)
    exact ⟨hdist ▸ hle, fun h => hhalf (hdist ▸ h)⟩
  · have hlt : part ≤ 1 :=
      div_le_one_of_le₀ (Nat.cast_le.2 (Nat.mod_lt _ hden).le) hpos.le
    have hdist : |(num : ℚ) / den - divRound num den| = 1 - part := by
      rw [hsplit, hround, Nat.cast_add_one, add_sub_add_left_eq_sub, abs_sub_comm,
        abs_of_nonneg (sub_nonneg.2 hlt)]
    have hle : 1 / 2 ≤ part := by
      rw [hpart, div_le_div_iff₀ two_pos hpos]
      exact_mod_cast (by omega : 1 * den ≤ num % den * 2)
    exact ⟨by rw [hdist]; linarith, fun h => hhalf (by linarith [hdist ▸ h])⟩

namespace RoundsTo

theorem le_of_ne (h : RoundsTo x m) (hk : k ≠ m) : 1 / 2 ≤ |x - k| := by
  have hgap : (1 : ℚ) ≤ |(m : ℚ) - k| := by
    have hint : (1 : ℤ) ≤ |(m : ℤ) - k| := Int.one_le_abs (by omega)
    exact_mod_cast hint
  have htriangle : |(m : ℚ) - k| ≤ |x - m| + |x - k| := by
    have h := abs_sub_le (m : ℚ) x k
    rwa [abs_sub_comm (m : ℚ) x] at h
  linarith [h.close]

theorem nearest (h : RoundsTo x m) (k : Nat) : |x - m| ≤ |x - k| := by
  by_cases hk : k = m
  · rw [hk]
  · exact h.close.trans (h.le_of_ne hk)

theorem even_of_tie (h : RoundsTo x m) (hk : k ≠ m) (htie : |x - m| = |x - k|) : Even m :=
  h.even (le_antisymm h.close (htie ▸ h.le_of_ne hk))

theorem le_of_le (h : RoundsTo x m) (hx : x ≤ k) : m ≤ k := by
  by_contra hlt
  have hgap : (k : ℚ) + 1 ≤ m := by exact_mod_cast Nat.lt_of_not_le hlt
  have hdist := h.nearest k
  rw [abs_sub_comm, abs_of_nonneg (by linarith), abs_sub_comm, abs_of_nonneg (by linarith)] at hdist
  linarith

theorem le_of_ge (h : RoundsTo x m) (hx : k ≤ x) : k ≤ m := by
  by_contra hlt
  have hgap : (m : ℚ) + 1 ≤ k := by exact_mod_cast Nat.lt_of_not_le hlt
  have hdist := h.nearest k
  rw [abs_of_nonneg (by linarith), abs_of_nonneg (by linarith)] at hdist
  linarith

end RoundsTo

/-! ### The value of a bit pattern -/

/-- The distance between the doubles with the exponent field `k + 1`, or 0 and 1. -/
def ulp (k : Nat) : ℚ := 2 ^ ((k : ℤ) - 1074)

theorem ulp_pos (k : Nat) : 0 < ulp k := zpow_pos two_pos _

theorem ulp_add (k j : Nat) : ulp (k + j) = (2 ^ j : ℕ) * ulp k := by
  rw [ulp, ulp, show ((k + j : ℕ) : ℤ) - 1074 = j + (k - 1074) by push_cast; ring,
    zpow_add₀ two_ne_zero, zpow_natCast, Nat.cast_pow, Nat.cast_ofNat]

/-- The value of the double with these bits, as if the exponents went on beyond the largest
double. -/
def scaleValue (bits : Nat) : ℚ :=
  if bits / 2 ^ 52 = 0 then (bits % 2 ^ 52 : ℕ) * ulp 0
  else (2 ^ 52 + bits % 2 ^ 52 : ℕ) * ulp (bits / 2 ^ 52 - 1)

theorem scaleValue_eq (hm : m ≤ 2 ^ 53) (h : k = 0 ∨ 2 ^ 52 ≤ m) :
    scaleValue (k * 2 ^ 52 + m) = m * ulp k := by
  unfold scaleValue
  rcases Nat.lt_or_ge m (2 ^ 52) with hlow | hlow
  · obtain rfl : k = 0 := by omega
    rw [if_pos (by omega), show (0 * 2 ^ 52 + m) % 2 ^ 52 = m by omega]
  · rw [if_neg (by omega)]
    rcases Nat.lt_or_ge m (2 ^ 53) with htop | htop
    · rw [show 2 ^ 52 + (k * 2 ^ 52 + m) % 2 ^ 52 = m by omega,
        show (k * 2 ^ 52 + m) / 2 ^ 52 - 1 = k by omega]
    · obtain rfl : m = 2 ^ 53 := by omega
      rw [show 2 ^ 52 + (k * 2 ^ 52 + 2 ^ 53) % 2 ^ 52 = 2 ^ 52 by omega,
        show (k * 2 ^ 52 + 2 ^ 53) / 2 ^ 52 - 1 = k + 1 by omega, ulp_add, ← mul_assoc,
        ← Nat.cast_mul, ← pow_add]

theorem exists_significand (bits : Nat) :
    ∃ k m, bits = k * 2 ^ 52 + m ∧ m < 2 ^ 53 ∧ (k = 0 ∨ 2 ^ 52 ≤ m) := by
  by_cases h : bits < 2 ^ 52
  · exact ⟨0, bits, by omega, by omega, .inl rfl⟩
  · exact ⟨bits / 2 ^ 52 - 1, 2 ^ 52 + bits % 2 ^ 52, by omega, by omega, .inr (by omega)⟩

theorem scaleValue_strictMono : StrictMono scaleValue := by
  refine strictMono_nat_of_lt_succ fun bits => ?_
  obtain ⟨k, m, rfl, hm, h⟩ := exists_significand bits
  rw [scaleValue_eq hm.le h, Nat.add_assoc, scaleValue_eq (m := m + 1) hm (h.imp id (by omega))]
  exact mul_lt_mul_of_pos_right (Nat.cast_lt.2 (Nat.lt_succ_self m)) (ulp_pos k)

/-! ### The nearest bit pattern -/

/-- The bits are those of the double nearest to the number, of two such doubles those of the
even one. -/
structure NearestBits (q : ℚ) (bits : Nat) : Prop where
  nearest : ∀ b, |q - scaleValue bits| ≤ |q - scaleValue b|
  even : ∀ b ≠ bits, |q - scaleValue bits| = |q - scaleValue b| → Even bits

/-- The number lies in the range in which doubles are `ulp k` apart, or below it if there is no
smaller range. -/
structure HasUlp (q : ℚ) (k : Nat) : Prop where
  lt : q < (2 ^ 53 : ℕ) * ulp k
  le : k = 0 ∨ (2 ^ 52 : ℕ) * ulp k ≤ q

namespace HasUlp

theorem significand (h : HasUlp q k) (hm : RoundsTo (q / ulp k) m) :
    m ≤ 2 ^ 53 ∧ (k = 0 ∨ 2 ^ 52 ≤ m) :=
  ⟨hm.le_of_le ((div_lt_iff₀ (ulp_pos k)).2 h.lt).le,
    h.le.imp id fun hle => hm.le_of_ge ((le_div_iff₀ (ulp_pos k)).2 hle)⟩

theorem abs_sub_mul_ulp (q : ℚ) (k j : Nat) : |q - j * ulp k| = |q / ulp k - j| * ulp k := by
  rw [← abs_of_pos (ulp_pos k), ← abs_mul, abs_of_pos (ulp_pos k), sub_mul,
    div_mul_cancel₀ _ (ulp_pos k).ne']

/-- A double is a multiple of the ulp, or too small to be near. -/
theorem multiple_or_far (h : HasUlp q k) (b : Nat) :
    (∃ j : Nat, scaleValue b = j * ulp k) ∨
      scaleValue b < (2 ^ 52 : ℕ) * ulp k ∧ (2 ^ 52 : ℕ) * ulp k ≤ q := by
  obtain ⟨k', m, rfl, hm, hm'⟩ := exists_significand b
  rw [scaleValue_eq hm.le hm']
  rcases Nat.lt_or_ge k' k with hk | hk
  · obtain ⟨j, rfl⟩ := Nat.exists_eq_add_of_lt hk
    refine .inr ⟨?_, h.le.resolve_left (by omega)⟩
    rw [Nat.add_assoc, ulp_add, ← mul_assoc, ← Nat.cast_mul]
    refine mul_lt_mul_of_pos_right (Nat.cast_lt.2 ?_) (ulp_pos k')
    calc m < 2 ^ 52 * 2 := hm
      _ ≤ 2 ^ 52 * 2 ^ (j + 1) := Nat.mul_le_mul_left _ (Nat.le_self_pow (by omega) 2)
  · obtain ⟨j, rfl⟩ := Nat.exists_eq_add_of_le hk
    exact .inl ⟨m * 2 ^ j, by rw [ulp_add, Nat.cast_mul, mul_assoc]⟩

theorem nearestBits (h : HasUlp q k) (hm : RoundsTo (q / ulp k) m) :
    NearestBits q (k * 2 ^ 52 + m) := by
  have hvalue : scaleValue (k * 2 ^ 52 + m) = m * ulp k :=
    scaleValue_eq (h.significand hm).1 (h.significand hm).2
  have hclosest (j : Nat) : |q - m * ulp k| ≤ |q - j * ulp k| := by
    rw [abs_sub_mul_ulp, abs_sub_mul_ulp]
    exact mul_le_mul_of_nonneg_right (hm.nearest j) (ulp_pos k).le
  have hfar {b : Nat} (hlt : scaleValue b < (2 ^ 52 : ℕ) * ulp k)
      (hle : (2 ^ 52 : ℕ) * ulp k ≤ q) : |q - m * ulp k| < |q - scaleValue b| := by
    refine (hclosest (2 ^ 52)).trans_lt ?_
    rw [abs_of_nonneg (sub_nonneg.2 hle), abs_of_pos (by linarith)]
    linarith
  refine ⟨fun b => ?_, fun b hb htie => ?_⟩
  · rw [hvalue]
    rcases h.multiple_or_far b with ⟨j, hj⟩ | ⟨hlt, hle⟩
    · exact hj ▸ hclosest j
    · exact (hfar hlt hle).le
  · rw [hvalue] at htie
    rcases h.multiple_or_far b with ⟨j, hj⟩ | ⟨hlt, hle⟩
    · have hne : j ≠ m := fun hjm =>
        hb (scaleValue_strictMono.injective (hj.trans (hjm ▸ hvalue.symm)))
      rw [hj, abs_sub_mul_ulp, abs_sub_mul_ulp, mul_left_inj' (ulp_pos k).ne'] at htie
      rw [Nat.even_add]
      exact iff_of_true ⟨k * 2 ^ 51, by ring⟩ (hm.even_of_tie hne htie)
    · exact absurd htie (hfar hlt hle).ne

end HasUlp

/-! ### The exponent and the significand of a quotient -/

theorem div_lt_zpow_log2 (num : Nat) (hden : 0 < den) :
    (num : ℚ) / den < 2 ^ ((num.log2 : ℤ) - den.log2 + 1) := by
  have hnum : (num : ℚ) < 2 ^ (num.log2 + 1) := by exact_mod_cast Nat.lt_log2_self
  have hlog : (2 : ℚ) ^ den.log2 ≤ den := by exact_mod_cast Nat.log2_self_le hden.ne'
  rw [div_lt_iff₀ (Nat.cast_pos.2 hden)]
  calc (num : ℚ) < 2 ^ (num.log2 + 1) := hnum
    _ = 2 ^ ((num.log2 : ℤ) - den.log2 + 1) * 2 ^ den.log2 := by
        rw [← zpow_natCast, ← zpow_natCast, ← zpow_add₀ two_ne_zero]
        congr 1
        push_cast
        ring
    _ ≤ 2 ^ ((num.log2 : ℤ) - den.log2 + 1) * den :=
        mul_le_mul_of_nonneg_left hlog (zpow_pos two_pos _).le

theorem zpow_log2_lt_div (hnum : num ≠ 0) (hden : 0 < den) :
    (2 : ℚ) ^ ((num.log2 : ℤ) - den.log2 - 1) < num / den := by
  have hlog : (2 : ℚ) ^ num.log2 ≤ num := by exact_mod_cast Nat.log2_self_le hnum
  have hden' : (den : ℚ) < 2 ^ (den.log2 + 1) := by exact_mod_cast Nat.lt_log2_self
  rw [lt_div_iff₀ (Nat.cast_pos.2 hden)]
  calc (2 : ℚ) ^ ((num.log2 : ℤ) - den.log2 - 1) * den
      < 2 ^ ((num.log2 : ℤ) - den.log2 - 1) * 2 ^ (den.log2 + 1) :=
        mul_lt_mul_of_pos_left hden' (zpow_pos two_pos _)
    _ = 2 ^ num.log2 := by
        rw [← zpow_natCast, ← zpow_natCast, ← zpow_add₀ two_ne_zero]
        congr 1
        push_cast
        ring
    _ ≤ num := hlog

/-- A quotient over a power of two is a quotient with one side shifted. -/
theorem div_zpow_two (num den : Nat) (e : ℤ) :
    (num : ℚ) / den / 2 ^ e =
      if 0 ≤ e then (num : ℚ) / (den <<< e.toNat : ℕ)
      else ((num <<< (-e).toNat : ℕ) : ℚ) / den := by
  split
  · next h =>
    obtain ⟨n, rfl⟩ := Int.eq_ofNat_of_zero_le h
    rw [Int.toNat_natCast, Nat.shiftLeft_eq, div_div, zpow_natCast]
    push_cast
    rfl
  · next h =>
    obtain ⟨n, hn⟩ := Int.eq_ofNat_of_zero_le (a := -e) (by omega)
    obtain rfl : e = -n := by omega
    rw [neg_neg, Int.toNat_natCast, Nat.shiftLeft_eq, zpow_neg, div_inv_eq_mul, zpow_natCast,
      div_mul_eq_mul_div]
    push_cast
    rfl

theorem ulpExponent_fits_iff (num : Nat) (hden : 0 < den) (e : ℤ) :
    ((if 0 ≤ e then decide (den <<< (e.toNat + 52) ≤ num)
      else decide (den <<< 52 ≤ num <<< (-e).toNat)) = true) ↔
      (2 : ℚ) ^ 52 * 2 ^ e ≤ num / den := by
  rw [← le_div_iff₀ (zpow_pos two_pos _), div_zpow_two]
  split
  · have hpos : 0 < den <<< e.toNat := by rw [Nat.shiftLeft_eq]; positivity
    rw [decide_eq_true_iff, le_div_iff₀ (Nat.cast_pos.2 hpos), Nat.shiftLeft_eq, Nat.shiftLeft_eq,
      show den * 2 ^ (e.toNat + 52) = 2 ^ 52 * (den * 2 ^ e.toNat) by ring]
    exact_mod_cast Iff.rfl
  · rw [decide_eq_true_iff, le_div_iff₀ (Nat.cast_pos.2 hden), Nat.shiftLeft_eq, Nat.mul_comm]
    exact_mod_cast Iff.rfl

/-- Before it is held at the smallest one, the exponent makes the significand 53 bits long. -/
theorem exists_ulpExponent (hnum : num ≠ 0) (hden : 0 < den) :
    ∃ e : ℤ, ulpExponent num den = max e (-1074) ∧ (2 : ℚ) ^ 52 * 2 ^ e ≤ num / den ∧
      (num : ℚ) / den < 2 ^ 53 * 2 ^ e := by
  set guess : ℤ := (num.log2 : ℤ) - den.log2 - 52 with hguess
  have hbelow : (num : ℚ) / den < 2 ^ 53 * 2 ^ guess := by
    have h := div_lt_zpow_log2 num hden
    rwa [show (num.log2 : ℤ) - den.log2 + 1 = 53 + guess by omega, zpow_add₀ two_ne_zero] at h
  have habove : (2 : ℚ) ^ 52 * 2 ^ (guess - 1) < num / den := by
    have h := zpow_log2_lt_div hnum hden
    rwa [show (num.log2 : ℤ) - den.log2 - 1 = 52 + (guess - 1) by omega,
      zpow_add₀ two_ne_zero] at h
  by_cases hfits : (2 : ℚ) ^ 52 * 2 ^ guess ≤ num / den
  · refine ⟨guess, ?_, hfits, hbelow⟩
    rw [ulpExponent, ← hguess, if_pos ((ulpExponent_fits_iff num hden guess).2 hfits)]
  · refine ⟨guess - 1, ?_, habove.le, ?_⟩
    · rw [ulpExponent, ← hguess, if_neg (mt (ulpExponent_fits_iff num hden guess).1 hfits)]
    · refine (not_le.1 hfits).trans_eq ?_
      rw [show guess = guess - 1 + 1 by ring, zpow_add_one₀ two_ne_zero, add_sub_cancel_right]
      ring

theorem hasUlp_ulpExponent (hnum : num ≠ 0) (hden : 0 < den) :
    ∃ k : ℕ, ulpExponent num den = k - 1074 ∧ HasUlp ((num : ℚ) / den) k := by
  obtain ⟨e, he, hle, hlt⟩ := exists_ulpExponent hnum hden
  rcases lt_or_ge e (-1074) with hlow | hlow
  · refine ⟨0, by omega, hlt.trans_le ?_, .inl rfl⟩
    rw [Nat.cast_pow, Nat.cast_ofNat, ulp]
    exact mul_le_mul_of_nonneg_left (zpow_le_zpow_right₀ one_le_two (by omega)) (by positivity)
  · obtain ⟨k, hk⟩ := Int.eq_ofNat_of_zero_le (a := e + 1074) (by omega)
    have hulp : ulp k = 2 ^ e := by rw [ulp, ← hk, add_sub_cancel_right]
    exact ⟨k, by omega, by rwa [hulp, Nat.cast_pow, Nat.cast_ofNat],
      .inr (by rwa [hulp, Nat.cast_pow, Nat.cast_ofNat])⟩

def roundedSignificand (num den : Nat) : Nat :=
  let e := ulpExponent num den
  if 0 ≤ e then divRound num (den <<< e.toNat) else divRound (num <<< (-e).toNat) den

theorem roundsTo_roundedSignificand (num : Nat) (hden : 0 < den) :
    RoundsTo ((num : ℚ) / den / 2 ^ ulpExponent num den) (roundedSignificand num den) := by
  rw [div_zpow_two, roundedSignificand]
  split
  · exact roundsTo_divRound num (by rw [Nat.shiftLeft_eq]; positivity)
  · exact roundsTo_divRound _ hden

theorem nearestBits_eq (hnum : num ≠ 0) :
    nearestBits num den =
      min ((ulpExponent num den + 1074).toNat <<< 52 + roundedSignificand num den)
        infinityBits :=
  if_neg hnum

theorem exists_ulp (hnum : num ≠ 0) (hden : 0 < den) :
    ∃ k m : Nat, HasUlp ((num : ℚ) / den) k ∧ RoundsTo ((num : ℚ) / den / ulp k) m ∧
      nearestBits num den = min (k * 2 ^ 52 + m) infinityBits := by
  obtain ⟨k, hexponent, hulp⟩ := hasUlp_ulpExponent hnum hden
  have hround := roundsTo_roundedSignificand num hden
  rw [hexponent, ← ulp] at hround
  refine ⟨k, _, hulp, hround, ?_⟩
  rw [nearestBits_eq hnum, hexponent, sub_add_cancel, Int.toNat_natCast, Nat.shiftLeft_eq]

theorem exists_nearestBits (num : Nat) (hden : 0 < den) :
    ∃ bits, NearestBits ((num : ℚ) / den) bits ∧ nearestBits num den = min bits infinityBits := by
  by_cases hnum : num = 0
  · have hvalue : scaleValue 0 = 0 := by simp [scaleValue]
    refine ⟨0, ⟨fun b => ?_, fun _ _ _ => ⟨0, rfl⟩⟩, ?_⟩
    · simp [hnum, hvalue]
    · rw [nearestBits, if_pos hnum, Nat.zero_min]
  · obtain ⟨k, m, hulp, hround, hbits⟩ := exists_ulp hnum hden
    exact ⟨_, hulp.nearestBits hround, hbits⟩

/-- Beyond infinity's bits, infinity is as near as a double can be. -/
theorem NearestBits.min_infinityBits {raw b : Nat} (h : NearestBits q raw)
    (hb : b ≤ infinityBits) :
    |q - scaleValue (min raw infinityBits)| ≤ |q - scaleValue b| ∧
      (b ≠ min raw infinityBits →
        |q - scaleValue (min raw infinityBits)| = |q - scaleValue b| →
          Even (min raw infinityBits)) := by
  rcases Nat.le_total raw infinityBits with hraw | hraw
  · rw [Nat.min_eq_left hraw]
    exact ⟨h.nearest b, h.even b⟩
  · rw [Nat.min_eq_right hraw]
    refine ⟨?_, fun _ _ => by decide⟩
    rcases le_total (scaleValue infinityBits) q with hq | hq
    · have hle : scaleValue b ≤ scaleValue infinityBits := scaleValue_strictMono.monotone hb
      rw [abs_of_nonneg (by linarith), abs_of_nonneg (by linarith)]
      linarith
    · have hle : scaleValue infinityBits ≤ scaleValue raw := scaleValue_strictMono.monotone hraw
      refine le_trans ?_ (h.nearest b)
      rw [abs_of_nonpos (by linarith), abs_of_nonpos (by linarith)]
      linarith

/-! ### The nearest double -/

/-- The value without its sign. Infinity counts as the power of two above the largest double. -/
def Binary64.magnitude : Binary64 → ℚ
  | .finite _ significand exponent => significand * 2 ^ exponent
  | _ => 2 ^ 1024

def magnitude (x : Float) : ℚ := (Binary64.ofBits x.toBits.toNat).magnitude

/-- The double has no minus sign and stands for a number or for infinity. -/
def IsNonneg (x : Float) : Prop := x.toBits.toNat ≤ infinityBits

/-- The double is nearest to the number; of two doubles that are equally near, the even one. -/
structure IsNearest (q : ℚ) (x : Float) : Prop where
  nonneg : IsNonneg x
  nearest : ∀ y, IsNonneg y → |q - magnitude x| ≤ |q - magnitude y|
  even : ∀ y, IsNonneg y → y ≠ x → |q - magnitude x| = |q - magnitude y| →
    Even x.toBits.toNat

theorem magnitude_ofBits {bits : Nat} (h : bits ≤ infinityBits) :
    (Binary64.ofBits bits).magnitude = scaleValue bits := by
  have hle : bits ≤ 2047 * 2 ^ 52 := h
  have hexponent : bits / 2 ^ 52 % 2 ^ 11 = bits / 2 ^ 52 := by omega
  unfold Binary64.ofBits scaleValue
  simp only [Nat.shiftRight_eq_div_pow, Nat.shiftLeft_eq, Nat.one_mul, hexponent]
  split
  · next htop =>
    have hbits : bits = 2047 * 2 ^ 52 := by omega
    subst hbits
    norm_num [Binary64.magnitude, ulp]
    rw [show (4503599627370496 : ℚ) = 2 ^ 52 by norm_num]
    exact pow_add 2 52 972
  · split
    · rfl
    · next hnonzero =>
      rw [Binary64.magnitude, ulp]
      congr 2
      omega

section Bits

open Float.Model

theorem valid_of_le_infinityBits {u : UInt64} (h : u.toNat ≤ infinityBits) :
    Format.binary64.Valid u.toBitVec := by
  have hle : u.toNat ≤ 2047 * 2 ^ 52 := h
  refine ⟨fun hexponent hmantissa => absurd (BitVec.eq_of_toNat_eq ?_) hmantissa⟩
  have hfield := congrArg BitVec.toNat hexponent
  simp [UnpackedFloat.unpackExponent, UnpackedFloat.unpackMantissa, Nat.shiftRight_eq_div_pow]
    at hfield ⊢
  omega

theorem toBits_floatOfBits {bits : Nat} (h : bits ≤ infinityBits) :
    (floatOfBits bits).toBits.toNat = bits := by
  have hsize : bits < 2 ^ 64 := Nat.lt_of_le_of_lt h (by decide)
  have hnat : (UInt64.ofNat bits).toNat = bits := UInt64.toNat_ofNat_of_lt' hsize
  have hvalid := valid_of_le_infinityBits (u := UInt64.ofNat bits) (by rwa [hnat])
  have hbits : (floatOfBits bits).toBits = UInt64.ofNat bits :=
    congrArg Float.toBits (Float.ofBits_toBits ⟨⟨_, hvalid⟩⟩)
  rw [hbits, hnat]

end Bits

theorem IsNonneg.magnitude_eq {x : Float} (h : IsNonneg x) :
    magnitude x = scaleValue x.toBits.toNat :=
  magnitude_ofBits h

theorem isNearest_nearestFloat (num : Nat) (hden : 0 < den) :
    IsNearest ((num : ℚ) / den) (nearestFloat num den) := by
  obtain ⟨raw, hraw, hbits⟩ := exists_nearestBits num hden
  have hle : nearestBits num den ≤ infinityBits := hbits ▸ Nat.min_le_right _ _
  have htoBits : (nearestFloat num den).toBits.toNat = min raw infinityBits := by
    rw [nearestFloat, toBits_floatOfBits hle, hbits]
  have hnonneg : IsNonneg (nearestFloat num den) := htoBits.trans_le (Nat.min_le_right _ _)
  refine ⟨hnonneg, fun y hy => ?_, fun y hy hne htie => ?_⟩
  · rw [hnonneg.magnitude_eq, hy.magnitude_eq, htoBits]
    exact (hraw.min_infinityBits hy).1
  · rw [hnonneg.magnitude_eq, hy.magnitude_eq, htoBits] at htie
    rw [htoBits]
    refine (hraw.min_infinityBits hy).2 (fun h => hne ?_) htie
    exact Float.toBits_inj.1 (UInt64.toNat_inj.1 (h.trans htoBits.symm))

theorem abs_sub_lt_of_between {a b c : ℚ} (hab : a < b) (hbc : b < c) (h : |q - a| = |q - c|) :
    |q - b| < |q - a| := by
  rcases abs_eq_abs.1 h with heq | heq
  · linarith
  · rw [abs_of_pos (by linarith : 0 < q - a), abs_lt]
    constructor <;> linarith

theorem IsNearest.unique {x y : Float} (hx : IsNearest q x) (hy : IsNearest q y) : x = y := by
  by_contra hne
  wlog hlt : x.toBits.toNat < y.toBits.toNat generalizing x y
  · have hbits : x.toBits.toNat ≠ y.toBits.toNat := fun h =>
      hne (Float.toBits_inj.1 (UInt64.toNat_inj.1 h))
    exact this hy hx (Ne.symm hne) (by omega)
  have htie := le_antisymm (hx.nearest y hy.nonneg) (hy.nearest x hx.nonneg)
  have hxeven := hx.even y hy.nonneg (Ne.symm hne) htie
  have hyeven := hy.even x hx.nonneg hne htie.symm
  -- Between two even bit patterns there is an odd one, and its value is nearer.
  obtain ⟨z, hz⟩ : ∃ z : Float, z.toBits.toNat = x.toBits.toNat + 1 :=
    ⟨_, toBits_floatOfBits (hlt.trans_le hy.nonneg)⟩
  have hbelow : z.toBits.toNat < y.toBits.toNat := by
    rw [Nat.even_iff] at hxeven hyeven
    omega
  have hnonneg : IsNonneg z := hbelow.le.trans hy.nonneg
  have hnear := hx.nearest z hnonneg
  rw [hx.nonneg.magnitude_eq, hnonneg.magnitude_eq] at hnear
  rw [hx.nonneg.magnitude_eq, hy.nonneg.magnitude_eq] at htie
  exact absurd hnear (not_le.2 (abs_sub_lt_of_between (scaleValue_strictMono (by omega))
    (scaleValue_strictMono hbelow) htie))

def Decimal.value (d : Decimal) : ℚ := d.digits / 10 ^ d.places

theorem Decimal.toFloat_eq_iff {d : Decimal} {x : Float} :
    d.toFloat = x ↔ IsNearest d.value x := by
  have hnearest : IsNearest d.value d.toFloat := by
    have h : IsNearest ((d.digits : ℚ) / (10 ^ d.places : ℕ)) d.toFloat :=
      isNearest_nearestFloat d.digits (by positivity)
    rwa [Nat.cast_pow, Nat.cast_ofNat] at h
  exact ⟨fun h => h ▸ hnearest, hnearest.unique⟩

end AnswerSetLearning
