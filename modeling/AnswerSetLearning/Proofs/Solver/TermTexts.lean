import AnswerSetLearning.Proofs.Solver.Plain
import AnswerSetLearning.Proofs.Unambiguity

namespace AnswerSetLearning.Solver

namespace Term

/-! ## Terms with names -/

inductive IsFunctor : Term → Prop
  | constant {f : String} (h : isConstantName f = true) : IsFunctor (constant f)
  | opposite {f : String} (h : isConstantName f = true) : IsFunctor (opposite f)
  | tuple : IsFunctor tuple

inductive IsNamed : Term → Prop
  | infimum : IsNamed infimum
  | supremum : IsNamed supremum
  | number (n : Int) : IsNamed (number n)
  | quoted (s : String) : IsNamed (quoted s)
  | functor {t : Term} (h : t.IsFunctor) : IsNamed t
  | apply {f a : Term} (hf : f.IsNamed) (hroot : f.root.IsFunctor) (ha : a.IsNamed) :
    IsNamed (apply f a)

theorem IsNamed.of_mem_args {t : Term} (h : t.IsNamed) : ∀ a ∈ t.args, a.IsNamed := by
  induction h with
  | functor h => cases h <;> simp [args]
  | apply _ _ ha ihf _ =>
    intro b hb
    rcases List.mem_append.1 hb with hb | hb
    · exact ihf b hb
    · exact List.mem_singleton.1 hb ▸ ha
  | _ => simp [args]

theorem sizeOf_lt_of_mem_args {t a : Term} (h : a ∈ t.args) : sizeOf a < sizeOf t := by
  induction t with
  | apply f b ihf _ =>
    rcases List.mem_append.1 h with h | h
    · have := ihf h
      simp only [apply.sizeOf_spec]
      omega
    · cases List.mem_singleton.1 h
      simp only [apply.sizeOf_spec]
      omega
  | _ => cases h

theorem foldl_args (t : Term) : t.args.foldl apply t.root = t := by
  induction t with
  | apply f a ihf _ => rw [args, root, List.foldl_append, ihf]; rfl
  | _ => rfl

theorem eq_of_root_of_args {s t : Term} (hroot : s.root = t.root) (hargs : s.args = t.args) :
    s = t := by rw [← foldl_args s, ← foldl_args t, hroot, hargs]

theorem spine_eq (t : Term) : t.spine = (t.root.spine.1, t.args.map text) := by
  induction t with
  | apply f a ihf _ => simp [spine, root, args, ihf, text]
  | _ => rfl

/-! ## Headings -/

/-- What a function starts from, and every term that is no function. -/
inductive IsRoot : Term → Prop
  | infimum : IsRoot infimum
  | supremum : IsRoot supremum
  | number (n : Int) : IsRoot (number n)
  | quoted (s : String) : IsRoot (quoted s)
  | functor {t : Term} (h : t.IsFunctor) : IsRoot t

theorem IsNamed.isRoot {t : Term} (h : t.IsNamed) : t.root.IsRoot := by
  cases h with
  | infimum => exact .infimum
  | supremum => exact .supremum
  | number n => exact .number n
  | quoted s => exact .quoted s
  | functor h =>
    cases h with
    | constant h => exact .functor (.constant h)
    | opposite h => exact .functor (.opposite h)
    | tuple => exact .functor .tuple
  | apply _ hroot _ => exact .functor hroot

def heading (t : Term) : List Char := t.root.spine.1.toList

def ofHeading : List Char → Term
  | [] => tuple
  | '#' :: 'i' :: _ => infimum
  | '#' :: _ => supremum
  | '-' :: cs =>
    if cs.all isAsciiDigit then number (-digitsValue cs) else opposite (.ofList cs)
  | cs => if cs.all isAsciiDigit then number (digitsValue cs) else constant (.ofList cs)

theorem exists_lowerLetter {f : String} (h : isConstantName f = true) :
    ∃ c ∈ f.toList, isLowerLetter c = true := by
  rw [isConstantName, Bool.and_eq_true] at h
  have hname := h.1
  unfold isNameOf at hname
  split at hname
  · next c rest hdrop =>
    exact ⟨c, (List.dropWhile_sublist _).subset (hdrop ▸ List.mem_cons_self),
      (Bool.and_eq_true_iff.1 hname).1⟩
  · cases hname

theorem all_isAsciiDigit_eq_false {f : String} (h : isConstantName f = true) :
    f.toList.all isAsciiDigit = false := by
  obtain ⟨c, hc, hlower⟩ := exists_lowerLetter h
  refine List.all_eq_false.2 ⟨c, hc, fun hdigit => ?_⟩
  have := isAsciiDigit_iff.1 hdigit
  have := isLowerLetter_iff.1 hlower
  omega

theorem isNameChar_of_isConstantName {f : String} (h : isConstantName f = true) :
    ∀ c ∈ f.toList, isNameChar c = true := by
  rw [isConstantName, Bool.and_eq_true] at h
  exact FactToken.isNameChar_of_isNameOf (fun _ => FactToken.isNameChar_of_isLowerLetter) h.1

theorem all_isAsciiDigit_toDigits (n : Nat) : (Nat.toDigits 10 n).all isAsciiDigit = true :=
  List.all_eq_true.2 fun _ => isAsciiDigit_of_mem_toDigits

theorem digitsValue_toDigits (n : Nat) : digitsValue (Nat.toDigits 10 n) = n :=
  Nat.ofDigitChars_toDigits (by decide) (by decide)

theorem ofHeading_of_isNameChar {cs : List Char} (hne : cs ≠ [])
    (h : ∀ c ∈ cs, isNameChar c = true) : ofHeading cs =
      if cs.all isAsciiDigit then number (digitsValue cs) else constant (.ofList cs) := by
  have hsign (c : Char) (hc : isNameChar c = false) (w : List Char) : cs ≠ c :: w := by
    rintro rfl
    exact Bool.noConfusion ((h c List.mem_cons_self).symm.trans hc)
  unfold ofHeading
  split
  · exact absurd rfl hne
  · exact absurd rfl (hsign '#' (by decide) _)
  · exact absurd rfl (hsign '#' (by decide) _)
  · exact absurd rfl (hsign '-' (by decide) _)
  · rfl

theorem toList_intText (n : Nat) : (intText n).toList = Nat.toDigits 10 n := by
  rw [intText_natCast, Nat.repr_eq_ofList_toDigits, String.toList_ofList]

theorem toList_intText_negSucc (n : Nat) :
    (intText (.negSucc n)).toList = '-' :: Nat.toDigits 10 (n + 1) := by
  simp [intText, Nat.repr_eq_ofList_toDigits]

theorem isNameChar_of_mem_toDigits {n : Nat} {c : Char} (h : c ∈ Nat.toDigits 10 n) :
    isNameChar c = true := by
  simp [isNameChar, isAsciiDigit_of_mem_toDigits h]

theorem ofHeading_spine {t : Term} (h : t.IsRoot) (hquoted : ∀ s, t ≠ quoted s) :
    ofHeading t.spine.1.toList = t := by
  cases h with
  | infimum => rfl
  | supremum => rfl
  | number n =>
    cases n with
    | ofNat n =>
      rw [spine, Int.ofNat_eq_natCast, toList_intText,
        ofHeading_of_isNameChar Nat.toDigits_ne_nil fun c => isNameChar_of_mem_toDigits,
        if_pos (all_isAsciiDigit_toDigits n), digitsValue_toDigits]
    | negSucc n =>
      rw [spine, toList_intText_negSucc, ofHeading, if_pos (all_isAsciiDigit_toDigits _),
        digitsValue_toDigits]
      rfl
  | quoted s => exact absurd rfl (hquoted s)
  | functor h =>
    cases h with
    | @constant f h =>
      rw [spine, ofHeading_of_isNameChar _ (isNameChar_of_isConstantName h),
        if_neg (by simp [all_isAsciiDigit_eq_false h]), String.ofList_toList]
      obtain ⟨c, hc, -⟩ := exists_lowerLetter h
      exact List.ne_nil_of_mem hc
    | @opposite f h =>
      have hspine : (opposite f).spine.1.toList = '-' :: f.toList := by simp [spine]
      rw [hspine, ofHeading, if_neg (by simp [all_isAsciiDigit_eq_false h]), String.ofList_toList]
    | tuple => rfl

def IsPunctuation (c : Char) : Prop := c = '(' ∨ c = ')' ∨ c = ',' ∨ c = '"'

instance (c : Char) : Decidable (IsPunctuation c) := inferInstanceAs (Decidable (_ ∨ _))

def EndsHeading (c : Char) : Prop := c = '(' ∨ c = ')' ∨ c = ','

instance (c : Char) : Decidable (EndsHeading c) := inferInstanceAs (Decidable (_ ∨ _))

theorem EndsHeading.isPunctuation {c : Char} (h : EndsHeading c) : IsPunctuation c := by
  rcases h with rfl | rfl | rfl <;> decide

theorem not_isPunctuation_of_isNameChar {c : Char} (h : isNameChar c = true) :
    ¬ IsPunctuation c := by
  rintro (rfl | rfl | rfl | rfl)
  all_goals exact absurd h (by decide)

theorem not_isPunctuation_of_mem_spine {t : Term} (h : t.IsRoot) (hquoted : ∀ s, t ≠ quoted s) :
    ∀ c ∈ t.spine.1.toList, ¬ IsPunctuation c := by
  have hsigned {cs : List Char} (hcs : ∀ c ∈ cs, isNameChar c = true) :
      ∀ c ∈ '-' :: cs, ¬ IsPunctuation c :=
    List.forall_mem_cons.2 ⟨by decide, fun c hc => not_isPunctuation_of_isNameChar (hcs c hc)⟩
  cases h with
  | infimum => simp [spine, IsPunctuation]
  | supremum => simp [spine, IsPunctuation]
  | number n =>
    cases n with
    | ofNat n =>
      rw [spine, Int.ofNat_eq_natCast, toList_intText]
      exact fun c hc => not_isPunctuation_of_isNameChar (isNameChar_of_mem_toDigits hc)
    | negSucc n =>
      rw [spine, toList_intText_negSucc]
      exact hsigned fun c => isNameChar_of_mem_toDigits
  | quoted s => exact absurd rfl (hquoted s)
  | functor h =>
    cases h with
    | @constant f h =>
      exact fun c hc => not_isPunctuation_of_isNameChar (isNameChar_of_isConstantName h c hc)
    | @opposite f h =>
      have hspine : (opposite f).spine.1.toList = '-' :: f.toList := by simp [spine]
      rw [hspine]
      exact hsigned (isNameChar_of_isConstantName h)
    | tuple => exact fun c hc => absurd hc List.not_mem_nil

theorem unambiguous_escape (next : Char → Prop) : Unambiguous next escape := by
  intro a b xs ys _ _ h
  unfold escape at h
  split at h <;> split at h <;> grind

theorem unambiguous_quoted : Unambiguous (· = '"') (List.flatMap escape) := by
  refine (unambiguous_escape fun _ => True).flatMap (· ≠ '"') (fun c => ?_) (by simp) (by simp)
  unfold escape
  split
  case h_4 hquote => exact ⟨_, _, rfl, hquote⟩
  all_goals exact ⟨_, _, rfl, by decide⟩

theorem toList_spine_quoted (s : String) :
    (quoted s).spine.1.toList = '"' :: (s.toList.flatMap escape ++ ['"']) := by
  simp [spine]

theorem not_quote_mem_head? {t : Term} (ht : t.IsRoot) (hquoted : ∀ s, t ≠ quoted s)
    {xs : List Char} (hxs : Follows EndsHeading xs) :
    '"' ∉ (t.spine.1.toList ++ xs).head? := by
  intro hquote
  cases hspine : t.spine.1.toList with
  | nil =>
    rw [hspine] at hquote
    exact absurd (hxs _ hquote) (by decide)
  | cons c cs =>
    have hc := not_isPunctuation_of_mem_spine ht hquoted c (hspine ▸ List.mem_cons_self)
    rw [hspine] at hquote
    cases Option.mem_some_iff.1 hquote
    exact hc (by decide)

theorem unambiguous_spine :
    Unambiguous EndsHeading fun t : {t : Term // t.IsRoot} => t.1.spine.1.toList := by
  rintro ⟨s, hs⟩ ⟨t, ht⟩ xs ys hxs hys h
  dsimp only at h
  by_cases hsq : ∃ u, s = quoted u
  · obtain ⟨u, rfl⟩ := hsq
    by_cases htq : ∃ v, t = quoted v
    · obtain ⟨v, rfl⟩ := htq
      simp only [toList_spine_quoted, List.cons_append, List.append_assoc, List.cons.injEq,
        true_and] at h
      obtain ⟨huv, hxy⟩ := unambiguous_quoted (follows_cons.2 rfl) (follows_cons.2 rfl) h
      cases String.toList_inj.1 huv
      exact ⟨rfl, List.cons.inj hxy |>.2⟩
    · refine absurd ?_ (not_quote_mem_head? ht (not_exists.1 htq) hys)
      rw [← h, toList_spine_quoted]
      rfl
  · by_cases htq : ∃ v, t = quoted v
    · obtain ⟨v, rfl⟩ := htq
      refine absurd ?_ (not_quote_mem_head? hs (not_exists.1 hsq) hxs)
      rw [h, toList_spine_quoted]
      rfl
    · have hword := not_isPunctuation_of_mem_spine hs (not_exists.1 hsq)
      have hword' := not_isPunctuation_of_mem_spine ht (not_exists.1 htq)
      obtain ⟨heq, hxy⟩ := unambiguous_word (¬ IsPunctuation ·) (a := ⟨_, hword⟩)
        (b := ⟨_, hword'⟩) (fun c hc => not_not.2 (hxs c hc).isPunctuation)
        (fun c hc => not_not.2 (hys c hc).isPunctuation) h
      have hspine : s.spine.1.toList = t.spine.1.toList := Subtype.ext_iff.1 heq
      have hst : s = t := by
        rw [← ofHeading_spine hs (not_exists.1 hsq), hspine,
          ofHeading_spine ht (not_exists.1 htq)]
      exact ⟨Subtype.ext hst, hxy⟩

/-! ## Arguments -/

def functionTail : List String → List Char
  | [] => []
  | a :: args => '(' :: ((joinWith "," (a :: args)).toList ++ [')'])

def tupleTail : List String → List Char
  | [] => ['(', ')']
  | a :: args => '(' :: (a.toList ++ ',' :: ((joinWith "," args).toList ++ [')']))

theorem toList_applicationText (name : String) (args : List String) :
    (applicationText name args).toList =
      name.toList ++ if name = "" then tupleTail args else functionTail args := by
  rcases args with _ | ⟨a, _ | ⟨b, args⟩⟩
  · by_cases h : name = "" <;> simp [applicationText, tupleTail, functionTail, h]
  · by_cases h : name = "" <;> simp [applicationText, tupleTail, functionTail, joinWith, h]
  · by_cases h : name = "" <;> simp [applicationText, tupleTail, functionTail, joinWith, h]

theorem spine_eq_empty_iff {t : Term} (h : t.IsRoot) : t.spine.1 = "" ↔ t = tuple := by
  constructor
  · intro hempty
    have hquoted (s : String) : t ≠ quoted s := by
      rintro rfl
      simp [spine] at hempty
    rw [← ofHeading_spine h hquoted, hempty]
    rfl
  · rintro rfl
    rfl

theorem IsNamed.toList_text {t : Term} (h : t.IsNamed) : t.text.toList = t.root.spine.1.toList ++
    if t.root = tuple then tupleTail (t.args.map text) else functionTail (t.args.map text) := by
  simp only [text, toList_applicationText, spine_eq t, spine_eq_empty_iff h.isRoot]

theorem IsNamed.exists_toList_text {t : Term} (h : t.IsNamed) :
    ∃ c cs, t.text.toList = c :: cs ∧ c ≠ ')' := by
  have htext := h.toList_text
  by_cases htuple : t.root = tuple
  · rw [if_pos htuple, htuple] at htext
    cases hargs : t.args.map text with
    | nil => exact ⟨_, _, htext.trans (by rw [hargs]; rfl), by decide⟩
    | cons a args => exact ⟨_, _, htext.trans (by rw [hargs]; rfl), by decide⟩
  · by_cases hq : ∃ s, t.root = Term.quoted s
    · obtain ⟨s, hs⟩ := hq
      rw [hs, toList_spine_quoted] at htext
      exact ⟨_, _, htext, by decide⟩
    · cases hspine : t.root.spine.1.toList with
      | nil =>
        exact absurd ((spine_eq_empty_iff h.isRoot).1 (String.toList_eq_nil_iff.1 hspine)) htuple
      | cons c cs =>
        have hc := not_isPunctuation_of_mem_spine h.isRoot (not_exists.1 hq) c
          (hspine ▸ List.mem_cons_self)
        rw [hspine] at htext
        refine ⟨c, _, htext, ?_⟩
        rintro rfl
        exact hc (by decide)

def EndsArgument (c : Char) : Prop := c = ',' ∨ c = ')'

instance (c : Char) : Decidable (EndsArgument c) := inferInstanceAs (Decidable (_ ∨ _))

theorem EndsArgument.endsHeading {c : Char} (h : EndsArgument c) : EndsHeading c := by
  rcases h with rfl | rfl <;> decide

theorem follows_tail {isTuple : Prop} [Decidable isTuple] (args : List String) {xs : List Char}
    (hxs : Follows EndsArgument xs) :
    Follows EndsHeading ((if isTuple then tupleTail args else functionTail args) ++ xs) := by
  split
  · cases args <;> exact follows_cons.2 (by decide)
  · cases args with
    | nil => exact fun c hc => (hxs c hc).endsHeading
    | cons a args => exact follows_cons.2 (by decide)

section Tails

variable {α : Type} {text : α → String} (htext : Unambiguous EndsArgument fun a => (text a).toList)
  (hstart : ∀ a, ∃ c cs, (text a).toList = c :: cs ∧ c ≠ ')')

include htext hstart

theorem unambiguous_arguments :
    Unambiguous (· = ')') fun l : List α => (joinWith "," (l.map text)).toList :=
  Unambiguous.joinWith (c := ',') rfl htext hstart (by decide)

theorem unambiguous_functionTail :
    Unambiguous EndsArgument fun l : List α => functionTail (l.map text) := by
  have hargs := (unambiguous_arguments htext hstart).append (c := ')') rfl [] EndsArgument
  have hopen {a : α} {l : List α} {xs ys : List Char} (hxs : Follows EndsArgument xs) :
      xs ≠ functionTail ((a :: l).map text) ++ ys :=
    ne_append_of_follows ⟨'(', _, rfl, by decide⟩ hxs
  intro l m xs ys hxs hys h
  cases l with
  | nil =>
    cases m with
    | nil => exact ⟨rfl, h⟩
    | cons b m => exact absurd h (hopen hxs)
  | cons a l =>
    cases m with
    | nil => exact absurd h.symm (hopen hys)
    | cons b m => exact hargs hxs hys (List.cons.inj h).2

theorem unambiguous_tupleTail :
    Unambiguous EndsArgument fun l : List α => tupleTail (l.map text) := by
  have hargs := (unambiguous_arguments htext hstart).append (c := ')') rfl [] EndsArgument
  have hclose {a : α} {xs ys : List Char} : ')' :: xs ≠ (text a).toList ++ ys := by
    obtain ⟨c, cs, hcs, hc⟩ := hstart a
    rw [hcs]
    exact fun h => hc (List.cons.inj h).1.symm
  intro l m xs ys hxs hys h
  cases l with
  | nil =>
    cases m with
    | nil => exact ⟨rfl, List.append_cancel_left h⟩
    | cons b m =>
      simp only [List.map_nil, List.map_cons, tupleTail, List.cons_append, List.append_assoc,
        List.cons.injEq, true_and] at h
      exact absurd h hclose
  | cons a l =>
    cases m with
    | nil =>
      simp only [List.map_nil, List.map_cons, tupleTail, List.cons_append, List.append_assoc,
        List.cons.injEq, true_and] at h
      exact absurd h.symm hclose
    | cons b m =>
      simp only [List.map_cons, tupleTail, List.cons_append, List.append_assoc,
        List.cons.injEq, true_and] at h
      obtain ⟨rfl, hrest⟩ := htext (follows_cons.2 (.inl rfl)) (follows_cons.2 (.inl rfl)) h
      obtain ⟨rfl, hxy⟩ := hargs hxs hys (by simpa using (List.cons.inj hrest).2)
      exact ⟨rfl, hxy⟩

end Tails

theorem unambiguous_text (n : Nat) : Unambiguous EndsArgument
    fun t : {t : Term // t.IsNamed ∧ sizeOf t < n} => t.1.text.toList := by
  induction n with
  | zero => exact fun s => absurd s.2.2 (Nat.not_lt_zero _)
  | succ n ih =>
    rintro ⟨s, hs, hsn⟩ ⟨t, ht, htn⟩ xs ys hxs hys h
    have hstart (t : {t : Term // t.IsNamed ∧ sizeOf t < n}) := t.2.1.exists_toList_text
    have hlist {t : Term} (ht : t.IsNamed) (htn : sizeOf t < n + 1) :
        ∃ l : List {t : Term // t.IsNamed ∧ sizeOf t < n}, l.map Subtype.val = t.args :=
      CanLift.prf t.args fun a ha => ⟨ht.of_mem_args a ha,
        (sizeOf_lt_of_mem_args ha).trans_le (Nat.lt_succ_iff.1 htn)⟩
    obtain ⟨l, hl⟩ := hlist hs hsn
    obtain ⟨m, hm⟩ := hlist ht htn
    simp only [hs.toList_text, ht.toList_text, List.append_assoc] at h
    obtain ⟨hroot, hrest⟩ := unambiguous_spine (a := ⟨_, hs.isRoot⟩) (b := ⟨_, ht.isRoot⟩)
      (follows_tail _ hxs) (follows_tail _ hys) h
    have hroot : s.root = t.root := Subtype.ext_iff.1 hroot
    rw [hroot, ← hl, ← hm, List.map_map, List.map_map] at hrest
    have hargs : l = m ∧ xs = ys := by
      split at hrest
      · exact unambiguous_tupleTail ih hstart hxs hys hrest
      · exact unambiguous_functionTail ih hstart hxs hys hrest
    obtain ⟨rfl, hxy⟩ := hargs
    exact ⟨Subtype.ext (eq_of_root_of_args hroot (hl.symm.trans hm)), hxy⟩

theorem IsNamed.text_injective {s t : Term} (hs : s.IsNamed) (ht : t.IsNamed)
    (h : s.text = t.text) : s = t := by
  let n := sizeOf s + sizeOf t + 1
  have hst := unambiguous_text n (a := ⟨s, hs, by omega⟩) (b := ⟨t, ht, by omega⟩)
    follows_nil follows_nil (by simp [h])
  exact Subtype.ext_iff.1 hst.1

end Term

end AnswerSetLearning.Solver
