import AnswerSetLearning.Proofs.Reader.Spelling
import AnswerSetLearning.Solver.Fact

namespace AnswerSetLearning

theorem digit_lt_ten {c : Char} (h : isAsciiDigit c = true) : c.toNat - '0'.toNat < 10 := by
  rw [isAsciiDigit_iff] at h
  simp
  omega

theorem digitChar_of_isAsciiDigit {c : Char} (h : isAsciiDigit c = true) :
    Nat.digitChar (c.toNat - '0'.toNat) = c := by
  apply Char.toNat_inj.1
  rw [Nat.toNat_digitChar_of_lt_ten (digit_lt_ten h)]
  rw [isAsciiDigit_iff] at h
  simp
  omega

theorem toDigits_append {cs : List Char} {n : Nat} (hn : 0 < n)
    (hcs : ∀ c ∈ cs, isAsciiDigit c = true) :
    Nat.toDigits 10 (Nat.ofDigitChars 10 cs n) = Nat.toDigits 10 n ++ cs := by
  induction cs generalizing n with
  | nil => simp
  | cons c cs ih =>
    have hc := hcs c List.mem_cons_self
    have hd := digit_lt_ten hc
    rw [Nat.ofDigitChars_cons, ih (by omega) fun d h => hcs d (List.mem_cons_of_mem c h),
      ← Nat.toDigits_append_toDigits (by decide) hn hd, Nat.toDigits_of_lt_base hd,
      digitChar_of_isAsciiDigit hc, List.append_assoc, List.singleton_append]

theorem toDigits_digitsValue {c : Char} {cs : List Char} (hc : c ≠ '0')
    (hcs : ∀ d ∈ c :: cs, isAsciiDigit d = true) :
    Nat.toDigits 10 (digitsValue (c :: cs)) = c :: cs := by
  have hd := hcs c List.mem_cons_self
  have hpos : 0 < c.toNat - '0'.toNat := by
    have hne : c.toNat ≠ 48 := fun h => hc (Char.toNat_inj.1 h)
    rw [isAsciiDigit_iff] at hd
    simp
    omega
  have hlt := digit_lt_ten hd
  change Nat.toDigits 10 (Nat.ofDigitChars 10 cs (10 * 0 + (c.toNat - '0'.toNat))) = c :: cs
  rw [Nat.mul_zero, Nat.zero_add, toDigits_append hpos fun d h => hcs d (List.mem_cons_of_mem c h),
    Nat.toDigits_of_lt_base hlt, digitChar_of_isAsciiDigit hd, List.singleton_append]

theorem intText_natCast (n : Nat) : intText n = Nat.repr n := rfl

namespace Solver

theorem digit?_ten_eq_some {c : Char} {n : Nat} (h : digit? 10 c = some n) :
    isAsciiDigit c = true ∧ n = c.toNat - '0'.toNat := by
  dsimp only [digit?] at h
  by_cases hc : isAsciiDigit c = true
  · rw [if_pos hc] at h
    split at h
    · exact ⟨hc, (Option.some.inj h).symm⟩
    · cases h
  · have hlarge : ¬ (if 'a' ≤ c && c ≤ 'f' then c.toNat - 'a'.toNat + 10
        else if 'A' ≤ c && c ≤ 'F' then c.toNat - 'A'.toNat + 10 else 10) < 10 := by
      split_ifs <;> omega
    rw [if_neg hc, if_neg hlarge] at h
    cases h

theorem foldlM_digit? {cs : List Char} {m n : Nat}
    (h : cs.foldlM (fun n c => (digit? 10 c).map (10 * n + ·)) m = some n) :
    (∀ c ∈ cs, isAsciiDigit c = true) ∧ n = Nat.ofDigitChars 10 cs m := by
  induction cs generalizing m with
  | nil =>
    cases h
    simp
  | cons c cs ih =>
    rw [List.foldlM_cons] at h
    obtain ⟨k, hk, h⟩ := Option.bind_eq_some_iff.1 h
    obtain ⟨d, hd, rfl⟩ := Option.map_eq_some_iff.1 hk
    obtain ⟨hc, rfl⟩ := digit?_ten_eq_some hd
    obtain ⟨hcs, rfl⟩ := ih h
    rw [Nat.ofDigitChars_cons]
    exact ⟨by simpa using ⟨hc, hcs⟩, rfl⟩

theorem inRange_of_lt {n : Nat} (h : n < 2147483648) : inRange n = n := by
  unfold inRange
  rw [Int.bmod_def]
  omega

theorem digitsOf?_ten_eq_some {cs : List Char} {n : Int} (h : digitsOf? 10 cs = some n) :
    (∀ c ∈ cs, isAsciiDigit c = true) ∧ n = inRange (digitsValue cs) := by
  unfold digitsOf? at h
  split at h
  · cases h
  · obtain ⟨m, hm, rfl⟩ := Option.map_eq_some_iff.1 h
    obtain ⟨k, hk, hm⟩ := Option.bind_eq_some_iff.1 hm
    cases hm
    obtain ⟨hcs, rfl⟩ := foldlM_digit? hk
    exact ⟨hcs, rfl⟩

theorem intText_of_numeral? {cs : List Char} {n : Int} (hcs : ∀ c ∈ cs, isDecimalDigit c = true)
    (hfits : (∀ c ∈ cs, isAsciiDigit c = true) → digitsValue cs < 2147483648)
    (h : numeral? cs = some n) : intText n = .ofList cs := by
  unfold numeral? at h
  split at h
  · cases h
    rfl
  · exact absurd (hcs 'x' (by simp)) (by decide)
  · exact absurd (hcs 'o' (by simp)) (by decide)
  · exact absurd (hcs 'b' (by simp)) (by decide)
  · cases h
  · next hzero =>
    obtain ⟨hdigits, hn⟩ := digitsOf?_ten_eq_some h
    rw [hn, inRange_of_lt (hfits hdigits)]
    cases cs with
    | nil => cases h
    | cons c cs =>
      have hc : c ≠ '0' := fun hc => hzero cs (congrArg (· :: cs) hc)
      rw [intText_natCast, Nat.repr_eq_ofList_toDigits, toDigits_digitsValue hc hdigits]

theorem range_of_isDecimalDigit {c : Char} (h : isDecimalDigit c = true) :
    48 ≤ c.toNat ∧ c.toNat ≤ 57 ∨ 1632 ≤ c.toNat := by
  have hzeros : ∀ first ∈ decimalZeros, first = 48 ∨ 1632 ≤ first := by decide
  obtain ⟨first, hfirst, hc⟩ := List.any_eq_true.1 h
  simp only [Bool.and_eq_true, decide_eq_true_eq] at hc
  have := hzeros first hfirst
  omega

theorem isUpperLetter_of_isDecimalDigit {c : Char} (h : isDecimalDigit c = true) :
    isUpperLetter c = false := by
  rw [← Bool.not_eq_true, isUpperLetter_iff]
  have := range_of_isDecimalDigit h
  omega

theorem isLowerLetter_of_isDecimalDigit {c : Char} (h : isDecimalDigit c = true) :
    isLowerLetter c = false := by
  rw [← Bool.not_eq_true, isLowerLetter_iff]
  have := range_of_isDecimalDigit h
  omega

theorem ne_of_isDecimalDigit {c d : Char} (hc : isDecimalDigit c = true)
    (hd : isDecimalDigit d = false) : c ≠ d := by
  rintro rfl
  exact Bool.noConfusion (hc.symm.trans hd)

theorem ne_nil_of_isNameOf {first : Char → Bool} {cs : List Char}
    (h : isNameOf first cs = true) : cs ≠ [] := by
  rintro rfl
  cases h

theorem ne_empty_of_argument {s : String} {x : Lexeme} (hx : x.WellSpelled)
    (hs : x.argument? = some s) : s ≠ "" := by
  rintro rfl
  cases x with
  | integer digits =>
    cases hs
    exact hx.1 rfl
  | var name =>
    cases hs
    exact ne_nil_of_isNameOf hx rfl
  | constant name =>
    cases hs
    exact ne_nil_of_isNameOf hx rfl
  | anonymous => exact absurd hs (by decide)
  | _ => cases hs

theorem args_ne_of_wellSpelled {l : Literal} (hl : l.WellSpelled) : l.args ≠ [""] := by
  intro hargs
  obtain ⟨x, hx, hs⟩ := hl.args "" (by simp [hargs])
  exact ne_empty_of_argument hx hs rfl

theorem isNameOf_upper_of_lower {cs : List Char} (h : isNameOf isLowerLetter cs = true) :
    isNameOf isUpperLetter cs = false := by
  unfold isNameOf at h ⊢
  split at h
  · rw [Bool.and_eq_true, isLowerLetter_iff] at h
    rw [Bool.and_eq_false_iff, ← Bool.not_eq_true, isUpperLetter_iff]
    omega
  · cases h

theorem isNameOf_digits {first : Char → Bool} {c : Char} {cs : List Char}
    (hc : isDecimalDigit c = true) (hfirst : first c = false) :
    isNameOf first (c :: cs) = false := by
  have hunderscore := ne_of_isDecimalDigit hc (d := '_') (by decide)
  have hquote := ne_of_isDecimalDigit hc (d := '\'') (by decide)
  simp [isNameOf, hunderscore, hquote, hfirst]

namespace Arg

theorem ofText?_var {s : String} (h : isNameOf isUpperLetter s.toList = true) :
    ofText? s = some (var s) := by
  have hne : s.toList ≠ ['_'] := fun hs => by simp [hs, isNameOf] at h
  simp [ofText?, ofWord?, hne, h]

theorem ofText?_constant {s : String} (h : isNameOf isLowerLetter s.toList = true)
    (hnot : s ≠ "not") : ofText? s = some (value (.constant s)) := by
  have hne : s.toList ≠ ['_'] := fun hs => by simp [hs, isNameOf] at h
  simp [ofText?, ofWord?, hne, isNameOf_upper_of_lower h, isConstantName, h, hnot]

theorem ofText?_digits {s : String} (hne : s.toList ≠ [])
    (hs : ∀ c ∈ s.toList, isDecimalDigit c = true) :
    ofText? s = (numeral? s.toList).map fun n => value (.number n) := by
  cases hcs : s.toList with
  | nil => exact absurd hcs hne
  | cons c cs =>
    have hc := hs c (by simp [hcs])
    have hanonymous := ne_of_isDecimalDigit hc (d := '_') (by decide)
    simp [ofText?, ofWord?, hcs, hanonymous, isConstantName,
      isNameOf_digits hc (isUpperLetter_of_isDecimalDigit hc),
      isNameOf_digits hc (isLowerLetter_of_isDecimalDigit hc)]

theorem ofText?_not : ofText? "not" = none := by decide

theorem ofText?_anonymous : ofText? "_" = some anonymous := by decide

theorem text_of_ofText? {s : String} {x : Lexeme} {t : Term} (hx : x.WellSpelled)
    (hs : x.argument? = some s)
    (hfits : (∀ c ∈ s.toList, isAsciiDigit c = true) → digitsValue s.toList < 2147483648)
    (h : ofText? s = some (value t)) : t.text = s := by
  have hne := ne_empty_of_argument hx hs
  cases x with
  | integer digits =>
    cases hs
    rw [ofText?_digits hx.1 hx.2] at h
    obtain ⟨n, hn, h⟩ := Option.map_eq_some_iff.1 h
    cases h
    have htext : intText n = s := by simpa using intText_of_numeral? hx.2 hfits hn
    simp [Term.text, Term.spine, Term.applicationText, htext, hne]
  | var name =>
    cases hs
    rw [ofText?_var hx] at h
    cases h
  | constant name =>
    cases hs
    by_cases hnot : s = "not"
    · rw [hnot, ofText?_not] at h
      cases h
    · rw [ofText?_constant hx hnot] at h
      cases h
      simp [Term.text, Term.spine, Term.applicationText, hne]
  | anonymous =>
    cases hs
    rw [ofText?_anonymous] at h
    cases h
  | _ => cases hs

end Arg

end Solver

end AnswerSetLearning
