import AnswerSetLearning.Proofs.Solver.Grounding
import AnswerSetLearning.Proofs.Solver.Program

namespace AnswerSetLearning

namespace Solver

/-! ## Plain terms -/

inductive Term.IsPlain : Term → Prop
  | number {n : Int} (lower : -2147483648 ≤ n) (upper : n < 2147483648) : IsPlain (.number n)
  | constant {name : String} (h : isConstantName name = true) : IsPlain (.constant name)

theorem inRange_mem (n : Int) : -2147483648 ≤ inRange n ∧ inRange n < 2147483648 :=
  ⟨Int.le_bmod (by decide), Int.bmod_lt (by decide)⟩

theorem mem_of_digitsOf? {base : Nat} {cs : List Char} {n : Int}
    (h : digitsOf? base cs = some n) : -2147483648 ≤ n ∧ n < 2147483648 := by
  unfold digitsOf? at h
  split at h
  · cases h
  · obtain ⟨m, -, rfl⟩ := Option.map_eq_some_iff.1 h
    exact inRange_mem m

theorem mem_of_numeral? {cs : List Char} {n : Int} (h : numeral? cs = some n) :
    -2147483648 ≤ n ∧ n < 2147483648 := by
  unfold numeral? at h
  split at h
  · cases h
    decide
  · exact mem_of_digitsOf? h
  · exact mem_of_digitsOf? h
  · exact mem_of_digitsOf? h
  · cases h
  · exact mem_of_digitsOf? h

theorem Arg.cases_of_ofWord? {cs : List Char} {a : Arg} (h : ofWord? cs = some a) :
    a = anonymous ∨ (∃ x, isNameOf isUpperLetter x.toList = true ∧ a = var x) ∨
      (∃ f, isConstantName f = true ∧ a = value (.constant f)) ∨
        ∃ n, numeral? cs = some n ∧ a = value (.number n) := by
  unfold ofWord? at h
  split_ifs at h with hanonymous hvar hconstant
  · exact .inl (Option.some.inj h).symm
  · exact .inr (.inl ⟨_, by rwa [String.toList_ofList], (Option.some.inj h).symm⟩)
  · exact .inr (.inr (.inl ⟨_, hconstant, (Option.some.inj h).symm⟩))
  · obtain ⟨n, hn, h⟩ := Option.map_eq_some_iff.1 h
    exact .inr (.inr (.inr ⟨n, hn, h.symm⟩))

theorem Arg.isPlain_of_ofText? {s : String} {t : Term} (h : ofText? s = some (value t)) :
    t.IsPlain := by
  rcases cases_of_ofWord? h with h | ⟨x, -, h⟩ | ⟨f, hf, h⟩ | ⟨n, hn, h⟩
  · cases h
  · cases h
  · cases h
    exact .constant hf
  · cases h
    obtain ⟨hlower, hupper⟩ := mem_of_numeral? hn
    exact .number hlower hupper

theorem Pattern.isPlain_of_ofLiteral? {l : Literal} {p : Pattern} (h : ofLiteral? l = some p) :
    ∀ t ∈ p.terms, t.IsPlain := by
  intro t ht
  unfold ofLiteral? at h
  split at h
  · cases h
  split at h
  · cases h
    cases ht
  · obtain ⟨as, has, rfl⟩ := Option.map_eq_some_iff.1 h
    obtain ⟨a, ha, hat⟩ := List.mem_filterMap.1 ht
    obtain ⟨s, -, hs⟩ := exists_of_forall₂ (forall₂_of_mapM has).flip ha
    cases a with
    | value u =>
      cases hat
      exact Arg.isPlain_of_ofText? hs
    | var x => cases hat
    | anonymous => cases hat

/-! ## Clauses -/

def wordLaw : BoundLaw where
  lower := fun _ m => -2147483648 ≤ m
  upper := fun _ n => n < 2147483648

theorem wordLaw_closedUnder_ofLess? {left right : Arg} {q : Inequality}
    (hleft : ∀ s, left = .value s → s.IsPlain) (hright : ∀ s, right = .value s → s.IsPlain)
    (h : Inequality.ofLess? left right = some q) : wordLaw.ClosedUnder q := by
  have hword {n : Int} (h : (Term.number n).IsPlain) : -2147483648 ≤ n ∧ n < 2147483648 := by
    cases h with
    | number hl hu => exact ⟨hl, hu⟩
  unfold Inequality.ofLess? at h
  split at h
  · cases h
    exact ⟨by simp, by simp, by simp [wordLaw]⟩
  · next m _ =>
    cases h
    have hm := hword (hleft _ rfl)
    refine ⟨fun x n _ hn => ?_, by simp, by simp [wordLaw]⟩
    simp only [BoundLaw.Lowest] at hn
    simp only [wordLaw]
    omega
  · next n =>
    cases h
    have hn := hword (hright _ rfl)
    refine ⟨by simp, fun y m _ hm => ?_, by simp [wordLaw]⟩
    simp only [BoundLaw.Highest] at hm
    simp only [wordLaw]
    omega
  · next x y =>
    split at h
    · cases h
      exact ⟨by simp, by simp, by simp [wordLaw]⟩
    · cases h
      refine ⟨fun _ n _ hn => ?_, fun _ m _ hm => ?_, by simp [wordLaw]⟩
      · simp only [BoundLaw.Lowest, wordLaw] at hn ⊢
        omega
      · simp only [BoundLaw.Highest, wordLaw] at hm ⊢
        omega
  · cases h

theorem wordLaw_closedUnder {t : Test}
    (hleft : ∀ s, t.left = .value s → s.IsPlain) (hright : ∀ s, t.right = .value s → s.IsPlain)
    {q : Inequality} (h : Inequality.ofTest? t = some q) : wordLaw.ClosedUnder q := by
  unfold Inequality.ofTest? at h
  split at h
  · cases h
  · exact wordLaw_closedUnder_ofLess? hright hleft h
  · exact wordLaw_closedUnder_ofLess? hleft hright h

theorem Clause.isPlain_of_mem_ranges {c : Clause}
    (htests : ∀ t ∈ c.tests, ∃ l r, Arg.ofText? l = some t.left ∧ Arg.ofText? r = some t.right)
    {x : String} {ns : List Int} (h : (x, ns) ∈ c.ranges) : ∀ n ∈ ns, (Term.number n).IsPlain := by
  have hclosed : ∀ t ∈ c.tests, ∀ q, Inequality.ofTest? t = some q → wordLaw.ClosedUnder q := by
    intro t ht q hq
    obtain ⟨left, right, hleft, hright⟩ := htests t ht
    exact wordLaw_closedUnder (fun s hs => Arg.isPlain_of_ofText? (hs ▸ hleft))
      (fun s hs => Arg.isPlain_of_ofText? (hs ▸ hright)) hq
  intro n hn
  obtain ⟨l, u, hl, hu, hmem⟩ := exists_of_mem_rangesOf hclosed h
  obtain ⟨hln, hnu⟩ := (hmem n).1 hn
  exact .number (hl.trans hln) (hnu.trans_lt hu)

theorem Clause.supplies_of_ofRule? {r : Rule} {cs : List Clause} (h : ofRule? r = some cs)
    (hr : ∀ l, r.head = some l → l.WellSpelled) {c : Clause} (hc : c ∈ cs) :
    c.Supplies Term.IsPlain := by
  rcases of_ofRule? h hc with ⟨l, ps, p, hl, -, hps, hp, rfl⟩ | ⟨head, hhead, hgrows⟩
  · rw [Pattern.ofFact?_eq (hr l hl)] at hps
    obtain ⟨q, hq, rfl⟩ := Option.map_eq_some_iff.1 hps
    cases List.mem_singleton.1 hp
    refine ⟨fun q' hq' => Option.some.inj hq' ▸ Pattern.isPlain_of_ofLiteral? hq, ?_⟩
    intro x ns hx
    rw [show ranges ⟨some p, [], []⟩ = [] from ranges_factClause p] at hx
    cases hx
  · refine ⟨fun p hp => ?_, fun x ns => isPlain_of_mem_ranges fun t ht => ?_⟩
    · rw [hgrows.head] at hp
      obtain ⟨l, -, hl⟩ := hhead p hp
      exact Pattern.isPlain_of_ofLiteral? hl
    · exact (hgrows.tests t ht).resolve_left List.not_mem_nil

/-! ## Numerals -/

theorem isAsciiDigit_of_mem_toDigits {c : Char} {n : Nat} (h : c ∈ Nat.toDigits 10 n) :
    isAsciiDigit c = true := by
  have hc := Nat.isDigit_of_mem_toDigits (by decide) (by decide) h
  simpa [Char.isDigit, isAsciiDigit, Char.le_def] using hc

theorem exists_toDigits_eq_cons {n : Nat} (hn : 0 < n) :
    ∃ c cs, Nat.toDigits 10 n = c :: cs ∧ c ≠ '0' := by
  induction n using Nat.strong_induction_on with
  | h n ih =>
    by_cases hlt : n < 10
    · refine ⟨_, _, Nat.toDigits_of_lt_base hlt, fun h => ?_⟩
      have hvalue := Nat.toNat_digitChar_of_lt_ten hlt
      rw [h] at hvalue
      simp at hvalue
      omega
    · obtain ⟨c, cs, hdigits, hc⟩ := ih (n / 10) (by omega) (by omega)
      exact ⟨c, _, by rw [Nat.toDigits_of_base_le (by decide) (by omega), hdigits]; rfl, hc⟩

theorem foldlM_digit?_of_digits {cs : List Char} (h : ∀ c ∈ cs, isAsciiDigit c = true) (m : Nat) :
    cs.foldlM (fun n c => (digit? 10 c).map (10 * n + ·)) m = some (Nat.ofDigitChars 10 cs m) := by
  induction cs generalizing m with
  | nil => simp
  | cons c cs ih =>
    have hc := h c List.mem_cons_self
    have hdigit : digit? 10 c = some (c.toNat - '0'.toNat) := by
      simpa [digit?, hc] using digit_lt_ten hc
    rw [List.foldlM_cons, hdigit, Nat.ofDigitChars_cons]
    exact ih (fun d hd => h d (List.mem_cons_of_mem c hd)) _

theorem digitsOf?_toDigits (n : Nat) : digitsOf? 10 (Nat.toDigits 10 n) = some (inRange n) := by
  have hne : (Nat.toDigits 10 n).isEmpty = false := by
    simp [Nat.toDigits_ne_nil]
  rw [digitsOf?, hne, foldlM_digit?_of_digits fun c => isAsciiDigit_of_mem_toDigits]
  simp [Nat.ofDigitChars_toDigits]

theorem numeral?_toDigits (n : Nat) : numeral? (Nat.toDigits 10 n) = some (inRange n) := by
  by_cases hn : n = 0
  · subst hn
    rfl
  · obtain ⟨c, cs, hdigits, hc⟩ := exists_toDigits_eq_cons (Nat.pos_of_ne_zero hn)
    rw [← digitsOf?_toDigits, hdigits]
    unfold numeral?
    split
    case h_6 => rfl
    all_goals
      next heq => exact absurd (List.cons.inj heq).1 hc

/-! ## Texts -/

theorem Term.text_number (n : Int) : (number n).text = intText n := by
  have hne : intText n ≠ "" := by
    cases n with
    | ofNat n => simp [intText, Nat.repr_eq_ofList_toDigits, Nat.toDigits_ne_nil]
    | negSucc n => simp [intText]
  simp [text, spine, applicationText, hne]

theorem Term.text_constant {name : String} (h : isConstantName name = true) :
    (constant name).text = name := by
  have hne : name ≠ "" := by
    rintro rfl
    cases h
  simp [text, spine, applicationText, hne]

def Term.ofText? (s : String) : Option Term :=
  match s.toList with
  | '-' :: cs => (numeral? cs).map fun n => number (inRange (-n))
  | _ => (Arg.ofText? s).bind Arg.value?

theorem Term.ofText?_of_ne {s : String} {c : Char} {cs : List Char} (hs : s.toList = c :: cs)
    (hc : c ≠ '-') : ofText? s = (Arg.ofText? s).bind Arg.value? := by
  unfold ofText?
  split
  · next heq => exact absurd (List.cons.inj (hs.symm.trans heq)).1 hc
  · rfl

theorem Term.ofText?_natural {n : Nat} (hn : n < 2147483648) :
    ofText? (intText n) = some (number n) := by
  have htext : (intText n).toList = Nat.toDigits 10 n := by
    simp [intText_natCast, Nat.repr_eq_ofList_toDigits]
  obtain ⟨c, cs, hdigits⟩ := List.exists_cons_of_ne_nil (Nat.toDigits_ne_nil (n := n) (b := 10))
  have hc : isAsciiDigit c = true := isAsciiDigit_of_mem_toDigits (hdigits ▸ List.mem_cons_self)
  have hminus : c ≠ '-' := by
    rintro rfl
    cases hc
  have hdecimal : ∀ d ∈ (intText n).toList, isDecimalDigit d = true := by
    intro d hd
    have hd := isAsciiDigit_of_mem_toDigits (htext ▸ hd)
    rw [isAsciiDigit_iff] at hd
    simp [isDecimalDigit, decimalZeros, hd.1]
    omega
  rw [ofText?_of_ne (htext.trans hdigits) hminus,
    Arg.ofText?_digits (by rw [htext]; exact Nat.toDigits_ne_nil) hdecimal, htext,
    numeral?_toDigits, inRange_of_lt hn]
  rfl

theorem Term.ofText?_negative {n : Nat} (hn : n < 2147483648) :
    ofText? (intText (.negSucc n)) = some (number (.negSucc n)) := by
  have htext : (intText (.negSucc n)).toList = '-' :: Nat.toDigits 10 (n + 1) := by
    simp [intText, Nat.repr_eq_ofList_toDigits]
  have hvalue : inRange (-(inRange ((n + 1 : Nat) : Int))) = .negSucc n := by
    simp only [inRange, Int.bmod_def]
    omega
  simp only [ofText?, htext, numeral?_toDigits, Option.map_some, hvalue]

theorem Term.IsPlain.ofText?_text {t : Term} (h : t.IsPlain) : Term.ofText? t.text = some t := by
  cases h with
  | @number n lower upper =>
    rw [text_number]
    cases n with
    | ofNat n => exact ofText?_natural (Int.ofNat_lt.1 upper)
    | negSucc n => exact ofText?_negative (by omega)
  | @constant name h =>
    rw [text_constant h]
    simp only [isConstantName, Bool.and_eq_true, bne_iff_ne] at h
    obtain ⟨c, cs, hname⟩ := List.exists_cons_of_ne_nil (ne_nil_of_isNameOf h.1)
    have hminus : c ≠ '-' := by
      rintro rfl
      simp [hname, isNameOf, isLowerLetter] at h
    rw [ofText?_of_ne hname hminus, Arg.ofText?_constant h.1 h.2]
    rfl

theorem digitsValue_intText (n : Nat) : digitsValue (intText n).toList = n := by
  rw [intText_natCast, Nat.repr_eq_ofList_toDigits, String.toList_ofList]
  exact Nat.ofDigitChars_toDigits (by decide) (by decide)

theorem Term.IsPlain.digitsValue_text_lt {t : Term} (h : t.IsPlain)
    (hdigits : ∀ c ∈ t.text.toList, isAsciiDigit c = true) :
    digitsValue t.text.toList < 2147483648 := by
  cases h with
  | @number n lower upper =>
    rw [text_number] at hdigits ⊢
    cases n with
    | ofNat n => exact (digitsValue_intText n).trans_lt (Int.ofNat_lt.1 upper)
    | negSucc n => exact absurd (hdigits '-' (by simp [intText])) (by decide)
  | @constant name h =>
    rw [text_constant h] at hdigits
    simp only [isConstantName, Bool.and_eq_true] at h
    have hname := h.1
    unfold isNameOf at hname
    split at hname
    · next c rest hdrop =>
      have hc : c ∈ name.toList := (List.dropWhile_sublist _).subset (hdrop ▸ List.mem_cons_self)
      rw [Bool.and_eq_true, isLowerLetter_iff] at hname
      have hc := isAsciiDigit_iff.1 (hdigits c hc)
      omega
    · cases hname

theorem Term.ofText?_of_arg {s : String} {t : Term} (h : Arg.ofText? s = some (.value t)) :
    ofText? s = some t := by
  unfold ofText?
  split
  · next cs hs =>
    have hnumeral : numeral? ('-' :: cs) = none := by
      refine Option.eq_none_iff_forall_ne_some.2 fun n hn => ?_
      have hminus := (digitsOf?_ten_eq_some hn).1 '-' List.mem_cons_self
      cases hminus
    rw [Arg.ofText?, hs] at h
    simp [Arg.ofWord?, isNameOf, isConstantName, hnumeral, isUpperLetter, isLowerLetter] at h
  · rw [h]
    rfl

end Solver

/-! ## Literals -/

/-- The atom that the solver takes the literal for. -/
def Literal.groundAtom? (l : Literal) : Option Solver.GroundAtom :=
  (l.args.mapM Solver.Term.ofText?).map fun ts => ⟨l.predicate, ts⟩

namespace Solver

theorem GroundAtom.Every.groundAtom?_literal {a : GroundAtom} (h : a.Every Term.IsPlain) :
    a.literal.groundAtom? = some ⟨unsignedName a.predicate, a.args⟩ := by
  have hargs : (a.args.map Term.text).mapM Term.ofText? = some a.args := by
    refine mapM_of_forall₂ (List.forall₂_map_left_iff.2 (List.forall₂_same.2 fun t ht => ?_))
    exact (h t ht).ofText?_text
  simp only [Literal.groundAtom?, GroundAtom.literal, hargs]
  rfl

theorem GroundAtom.Every.numbersFit_literal {a : GroundAtom} (h : a.Every Term.IsPlain) :
    a.literal.NumbersFit := by
  intro s hs
  obtain ⟨t, ht, rfl⟩ := List.mem_map.1 hs
  exact (h t ht).digitsValue_text_lt

theorem groundAtom?_of_ofLiteral? {l : Literal} {p : Pattern} {ts : List Term}
    (hl : l.WellSpelled) (hp : Pattern.ofLiteral? l = some p) (hts : p.args = ts.map .value) :
    l.groundAtom? = some ⟨p.predicate, ts⟩ := by
  rw [Pattern.ofLiteral?, if_neg (args_ne_of_wellSpelled hl)] at hp
  split at hp
  · cases hp
  · obtain ⟨as, has, rfl⟩ := Option.map_eq_some_iff.1 hp
    obtain rfl : as = ts.map .value := hts
    have hvalues := List.forall₂_map_right_iff.1 (forall₂_of_mapM has)
    simp only [Literal.groundAtom?,
      mapM_of_forall₂ (hvalues.imp fun _ _ => Term.ofText?_of_arg)]
    rfl

end Solver

end AnswerSetLearning
