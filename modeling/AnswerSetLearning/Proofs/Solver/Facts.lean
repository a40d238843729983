import AnswerSetLearning.Proofs.Solver.Words
import AnswerSetLearning.Solver.Query
import Mathlib.Data.List.Forall2
import Mathlib.Data.Set.List

namespace AnswerSetLearning

namespace Solver

namespace FactToken

def startsMark (c : Char) : Bool := isSpace c || isMark c || c == '.' || c == '"' || c == '#'

theorem all?_skip (n : Nat) (cs : List Char) : all? n cs = all? 0 (cs.drop n) := by
  induction n generalizing cs with
  | zero => rfl
  | succ n ih =>
    cases cs with
    | nil => simp [all?]
    | cons c cs => simpa [all?] using ih cs

theorem piece?_of_not_startsMark {c : Char} (cs : List Char) (hc : startsMark c = false) :
    piece? (c :: cs) = (Arg.ofWord? ((c :: cs).takeWhile isNameChar)).map fun a =>
      (some (plain a), ((c :: cs).takeWhile isNameChar).length) := by
  simp only [startsMark, Bool.or_eq_false_iff, beq_eq_false_iff_ne] at hc
  obtain ⟨⟨⟨⟨hspace, hmark⟩, hdot⟩, hquote⟩, hhash⟩ := hc
  unfold piece?
  split
  · next h => exact absurd (List.cons.inj h).1 hdot
  · next h =>
    rw [(List.cons.inj h).1] at hmark
    exact absurd hmark (by decide)
  · next h => exact absurd (List.cons.inj h).1 hquote
  · next h => exact absurd (List.cons.inj h).1 hhash
  · next h =>
    cases h
    simp [hspace, hmark]
  · next h => cases h

theorem startsMark_of_class {p : Char → Bool} {c : Char} (hc : p c = true)
    (hp : ([' ', '\t', '\n', '\r', '.', '"', '#'] ++ "()|,;+-*/\\^?&~".toList).all (!p ·) = true) :
    startsMark c = false := by
  rw [← Bool.not_eq_true]
  intro h
  have hmem : c ∈ [' ', '\t', '\n', '\r', '.', '"', '#'] ++ "()|,;+-*/\\^?&~".toList := by
    simp only [startsMark, isSpace, isMark, Bool.or_eq_true, beq_iff_eq,
      List.contains_iff_mem] at h
    rw [List.mem_append]
    rcases h with (((h | h) | rfl) | rfl) | rfl
    · left
      rcases h with ((rfl | rfl) | rfl) | rfl <;> simp
    · exact .inr h
    all_goals simp
  have hpc := List.all_eq_true.1 hp c hmem
  simp [hc] at hpc

theorem startsMark_of_isNameChar {c : Char} (h : isNameChar c = true) : startsMark c = false :=
  startsMark_of_class h (by decide)

theorem startsMark_of_isDecimalDigit {c : Char} (h : isDecimalDigit c = true) :
    startsMark c = false := startsMark_of_class h (by decide)

theorem all?_word {w rest : List Char} (hne : w ≠ []) (hw : ∀ c ∈ w, isNameChar c = true)
    (hrest : ∀ c ∈ rest.head?, isNameChar c = false) :
    all? 0 (w ++ rest) =
      (Arg.ofWord? w).bind fun a => (all? 0 rest).map fun tokens => plain a :: tokens := by
  cases w with
  | nil => exact absurd rfl hne
  | cons c w =>
    have hword : (c :: w ++ rest).takeWhile isNameChar = c :: w := by
      rw [List.takeWhile_append_of_pos hw]
      cases rest with
      | nil => simp
      | cons d rest => simp [hrest d rfl]
    have hpiece := piece?_of_not_startsMark (w ++ rest)
      (startsMark_of_isNameChar (hw c List.mem_cons_self))
    rw [← List.cons_append, hword] at hpiece
    rw [List.cons_append, all?, ← List.cons_append, hpiece]
    cases Arg.ofWord? (c :: w) with
    | none => rfl
    | some a =>
      simp [all?_skip]

theorem all?_foreign_digit {w cs : List Char} {c : Char}
    (hw : ∀ d ∈ w, isNameChar d = true) (hc : isDecimalDigit c = true)
    (hforeign : isNameChar c = false) : all? 0 (w ++ c :: cs) = none := by
  have hfail : all? 0 (c :: cs) = none := by
    have hword : (c :: cs).takeWhile isNameChar = [] :=
      List.takeWhile_cons_of_neg (by simp [hforeign])
    have hempty : Arg.ofWord? [] = none := by decide
    rw [all?, piece?_of_not_startsMark cs (startsMark_of_isDecimalDigit hc), hword, hempty]
    rfl
  cases w with
  | nil => exact hfail
  | cons d w =>
    rw [all?_word (List.cons_ne_nil d w) hw (by simpa using hforeign), hfail]
    simp

theorem isNameChar_of_isNameOf {first : Char → Bool} {cs : List Char}
    (hfirst : ∀ c, first c = true → isNameChar c = true) (h : isNameOf first cs = true) :
    ∀ c ∈ cs, isNameChar c = true := by
  intro c hc
  rw [← List.takeWhile_append_dropWhile (p := fun c => c == '_' || c == '\'') (l := cs)] at hc
  unfold isNameOf at h
  cases List.mem_append.1 hc with
  | inl hc =>
    have hc : c = '_' ∨ c = '\'' := by simpa using List.mem_takeWhile_imp hc
    rcases hc with rfl | rfl <;> decide
  | inr hc =>
    split at h
    · next d rest hdrop =>
      rw [hdrop] at hc
      rw [Bool.and_eq_true, List.all_eq_true] at h
      cases List.mem_cons.1 hc with
      | inl hc => exact hc ▸ hfirst d h.1
      | inr hc => exact h.2 c hc
    · cases h

theorem isNameChar_of_isUpperLetter {c : Char} (h : isUpperLetter c = true) :
    isNameChar c = true := by simp [isNameChar, h]

theorem isNameChar_of_isLowerLetter {c : Char} (h : isLowerLetter c = true) :
    isNameChar c = true := by simp [isNameChar, h]

theorem isSome_of_all?_word {s : String} {rest : List Char} (hne : s.toList ≠ [])
    (hs : ∀ c ∈ s.toList, isNameChar c = true) (hrest : ∀ c ∈ rest.head?, isNameChar c = false)
    (h : (all? 0 (s.toList ++ rest)).isSome) :
    (Arg.ofText? s).isSome ∧ (all? 0 rest).isSome := by
  rw [all?_word hne hs hrest] at h
  cases ha : Arg.ofWord? s.toList with
  | none => simp [ha] at h
  | some a =>
    rw [ha, Option.bind_some, Option.isSome_map] at h
    exact ⟨by simp [Arg.ofText?, ha], h⟩

theorem isSome_of_all?_argument {s : String} {x : Lexeme} {rest : List Char}
    (hx : x.WellSpelled) (hs : x.argument? = some s)
    (hrest : ∀ c ∈ rest.head?, isNameChar c = false)
    (h : (all? 0 (s.toList ++ rest)).isSome) :
    (Arg.ofText? s).isSome ∧ (all? 0 rest).isSome := by
  cases x with
  | integer digits =>
    cases hs
    by_cases hall : ∀ c ∈ s.toList, isNameChar c = true
    · exact isSome_of_all?_word hx.1 hall hrest h
    · cases hdrop : s.toList.dropWhile isNameChar with
      | nil => exact absurd (List.dropWhile_eq_nil_iff.1 hdrop) hall
      | cons c cs =>
        have hc : c ∈ s.toList := (List.dropWhile_sublist _).subset (hdrop ▸ List.mem_cons_self)
        have hforeign : isNameChar c = false := by
          simpa [hdrop] using List.head?_dropWhile_not isNameChar s.toList
        rw [← List.takeWhile_append_dropWhile (p := isNameChar) (l := s.toList), hdrop,
          List.append_assoc, List.cons_append,
          all?_foreign_digit (fun _ => List.mem_takeWhile_imp) (hx.2 c hc) hforeign] at h
        cases h
  | var name =>
    cases hs
    exact isSome_of_all?_word (ne_nil_of_isNameOf hx)
      (isNameChar_of_isNameOf (fun _ => isNameChar_of_isUpperLetter) hx) hrest h
  | constant name =>
    cases hs
    exact isSome_of_all?_word (ne_nil_of_isNameOf hx)
      (isNameChar_of_isNameOf (fun _ => isNameChar_of_isLowerLetter) hx) hrest h
  | anonymous =>
    cases hs
    exact isSome_of_all?_word (by decide) (List.all_eq_true.1 (by decide)) hrest h
  | _ => cases hs

theorem all?_mark {c : Char} {cs : List Char} (hc : isMark c = true) (hspace : isSpace c = false)
    (hstar : c ≠ '*') : all? 0 (c :: cs) = (all? 0 cs).map fun tokens =>
      mark (.ofList [c]) :: tokens := by
  have hpiece : piece? (c :: cs) = some (some (mark (.ofList [c])), 1) := by
    unfold piece?
    split
    · next h =>
      rw [(List.cons.inj h).1] at hc
      exact absurd hc (by decide)
    · next h => exact absurd (List.cons.inj h).1 hstar
    · next h =>
      rw [(List.cons.inj h).1] at hc
      exact absurd hc (by decide)
    · next h =>
      rw [(List.cons.inj h).1] at hc
      exact absurd hc (by decide)
    · next h =>
      cases h
      simp [hc, hspace]
    · next h => cases h
  rw [all?, hpiece]
  rfl

theorem all?_space (cs : List Char) : all? 0 (' ' :: cs) = all? 0 cs := by
  rw [all?, show piece? (' ' :: cs) = some (none, 1) from rfl]
  simp

theorem isSome_of_all?_arguments {args : List String} {rest : List Char}
    (hargs : ∀ a ∈ args, ∃ x : Lexeme, x.WellSpelled ∧ x.argument? = some a)
    (h : (all? 0 ((joinWith ", " args).toList ++ ')' :: rest)).isSome) :
    ∀ a ∈ args, (Arg.ofText? a).isSome := by
  induction args using joinWith.induct with
  | case1 => simp
  | case2 s =>
    obtain ⟨x, hx, hs⟩ := hargs s (by simp)
    have hword := isSome_of_all?_argument hx hs (by rintro c ⟨⟩; decide) h
    simpa using hword.1
  | case3 s args hne ih =>
    obtain ⟨x, hx, hs⟩ := hargs s (by simp)
    have hjoin : (joinWith ", " (s :: args)).toList ++ ')' :: rest =
        s.toList ++ ',' :: ' ' :: ((joinWith ", " args).toList ++ ')' :: rest) := by
      rw [joinWith.eq_3 _ _ _ hne]
      simp
    rw [hjoin] at h
    have hword := isSome_of_all?_argument hx hs (by rintro c ⟨⟩; decide) h
    rw [all?_mark (by decide) (by decide) (by decide), Option.isSome_map, all?_space] at hword
    intro a ha
    cases List.mem_cons.1 ha with
    | inl ha => exact ha ▸ hword.1
    | inr ha => exact ih (fun b hb => hargs b (List.mem_cons_of_mem s hb)) hword.2 a ha

end FactToken

/-! ## Facts as patterns -/

theorem isConstantName_of_ofText? {s : String} (h : isNameOf isLowerLetter s.toList = true)
    (hs : (Arg.ofText? s).isSome) : isConstantName s = true := by
  have hnot : s ≠ "not" := by
    rintro rfl
    rw [Arg.ofText?_not] at hs
    cases hs
  simp [isConstantName, h, hnot]

theorem isSome_mapM {α β : Type} {f : α → Option β} {l : List α}
    (h : ∀ a ∈ l, (f a).isSome) : (l.mapM f).isSome := by
  induction l with
  | nil => rfl
  | cons a l ih =>
    obtain ⟨b, hb⟩ := Option.isSome_iff_exists.1 (h a List.mem_cons_self)
    obtain ⟨bs, hbs⟩ := Option.isSome_iff_exists.1
      (ih fun c hc => h c (List.mem_cons_of_mem a hc))
    simp [List.mapM_cons, hb, hbs]

theorem Pattern.isSome_ofLiteral? {l : Literal} (hl : l.WellSpelled)
    (h : (FactToken.all? 0 l.text.toList).isSome) : (ofLiteral? l).isSome := by
  have hname (rest : List Char) (hrest : ∀ c ∈ rest.head?, isNameChar c = false)
      (h : (FactToken.all? 0 (l.predicate.toList ++ rest)).isSome) :
      isConstantName l.predicate = true ∧ (FactToken.all? 0 rest).isSome := by
    have hword := FactToken.isSome_of_all?_argument (x := .constant l.predicate) hl.predicate rfl
      hrest h
    exact ⟨isConstantName_of_ofText? hl.predicate hword.1, hword.2⟩
  unfold ofLiteral?
  cases hcase : l.args with
  | nil =>
    have hpredicate := (hname [] (by simp) (by simpa [Literal.text, hcase] using h)).1
    simp [hpredicate]
  | cons a args =>
    have htext : l.text.toList = l.predicate.toList ++
        '(' :: ((joinWith ", " l.args).toList ++ [')']) := by
      simp [Literal.text, hcase]
    rw [htext] at h
    obtain ⟨hpredicate, h⟩ := hname _ (by rintro c ⟨⟩; decide) h
    rw [FactToken.all?_mark (by decide) (by decide) (by decide), Option.isSome_map] at h
    have hmapM := isSome_mapM (FactToken.isSome_of_all?_arguments hl.args h)
    rw [← hcase]
    simpa [hpredicate, args_ne_of_wellSpelled hl] using hmapM

theorem Pattern.ofFact?_eq {l : Literal} (hl : l.WellSpelled) :
    ofFact? l = (ofLiteral? l).map fun p => [p] := by
  unfold ofFact?
  cases hp : ofLiteral? l with
  | some p => rfl
  | none =>
    have hnone : FactToken.all? 0 l.text.toList = none := by
      rw [← Option.not_isSome_iff_eq_none]
      intro h
      have := isSome_ofLiteral? hl h
      rw [hp] at this
      cases this
    rw [hnone]
    rfl

/-! ## The clauses of facts -/

end Solver

/-- The numbers of the literal are below `2147483648`, so that the solver can tell them apart. -/
def Literal.NumbersFit (l : Literal) : Prop :=
  ∀ a ∈ l.args, (∀ c ∈ a.toList, isAsciiDigit c = true) → digitsValue a.toList < 2147483648

namespace Solver

def factClause (p : Pattern) : Clause := ⟨some p, [], []⟩

theorem ofRule?_factRule {l : Literal} (hl : l.WellSpelled) :
    Clause.ofRule? (factRule l) = (Pattern.ofLiteral? l).map fun p => [factClause p] := by
  simp only [Clause.ofRule?, factRule, Pattern.ofFact?_eq hl, Option.map_map]
  rfl

theorem ranges_factClause (p : Pattern) : (factClause p).ranges = [] := by
  simp [Clause.ranges, factClause, rangesOf, Bounds.ofInequalities, Bounds.tighten]

theorem boundVars_factClause (p : Pattern) : (factClause p).boundVars = [] := by
  rw [Clause.boundVars, ranges_factClause]
  rfl

theorem exists_values_of_isSafe {p : Pattern} (h : (factClause p).isSafe = true) :
    ∃ ts : List Term, p.args = ts.map .value := by
  have hbinds : ∀ a ∈ p.args, (factClause p).binds a = true := by
    simp only [Clause.isSafe, Bool.and_eq_true] at h
    simpa [factClause] using h.1.1
  have hvalue : ∀ a ∈ p.args, ∃ t, .value t = a := by
    intro a ha
    have ha := hbinds a ha
    cases a with
    | value t => exact ⟨t, rfl⟩
    | var x => simp [Clause.binds, boundVars_factClause] at ha
    | anonymous => cases ha
  have hrange : p.args ∈ Set.range (List.map Arg.value) := by
    rw [Set.range_list_map]
    exact hvalue
  obtain ⟨ts, hts⟩ := hrange
  exact ⟨ts, hts.symm⟩

theorem eval?_of_args {p : Pattern} {ts : List Term} (h : p.args = ts.map .value) :
    p.eval? [] = some ⟨p.predicate, ts⟩ := by
  have hmapM : ∀ ts : List Term, (ts.map Arg.value).mapM (Arg.eval? []) = some ts := by
    intro ts
    induction ts with
    | nil => rfl
    | cons t ts ih => simp [List.mapM_cons, ih, Arg.eval?]
  rw [Pattern.eval?, h, hmapM]
  rfl

theorem forall₂_of_mapM {α β : Type} {f : α → Option β} {l : List α} {bs : List β}
    (h : l.mapM f = some bs) : List.Forall₂ (fun a b => f a = some b) l bs := by
  induction l generalizing bs with
  | nil =>
    cases h
    exact .nil
  | cons a l ih =>
    rw [List.mapM_cons] at h
    obtain ⟨b, hb, h⟩ := Option.bind_eq_some_iff.1 h
    obtain ⟨cs, hcs, h⟩ := Option.bind_eq_some_iff.1 h
    cases h
    exact .cons hb (ih hcs)

theorem mapM_of_forall₂ {α β : Type} {f : α → Option β} {l : List α} {bs : List β}
    (h : List.Forall₂ (fun a b => f a = some b) l bs) : l.mapM f = some bs := by
  induction h with
  | nil => rfl
  | cons hab _ ih => simp [List.mapM_cons, hab, ih]

theorem exists_of_forall₂ {α β : Type} {R : α → β → Prop} {l : List α} {m : List β}
    (h : List.Forall₂ R l m) {a : α} (ha : a ∈ l) : ∃ b ∈ m, R a b := by
  induction h with
  | nil => exact absurd ha List.not_mem_nil
  | @cons b c l m hbc _ ih =>
    cases List.mem_cons.1 ha with
    | inl ha => exact ⟨c, List.mem_cons_self, ha ▸ hbc⟩
    | inr ha =>
      obtain ⟨d, hd, had⟩ := ih ha
      exact ⟨d, List.mem_cons_of_mem c hd, had⟩

theorem unsignedName_of_isConstantName {s : String} (h : isConstantName s = true) :
    unsignedName s = s := by
  unfold unsignedName
  split
  · next cs hcs =>
    rw [isConstantName, hcs] at h
    exact absurd h (by simp [isNameOf, isLowerLetter])
  · rfl

theorem map_text_of_forall₂ {args : List String} {ts : List Term}
    (hargs : ∀ a ∈ args, ∃ x : Lexeme, x.WellSpelled ∧ x.argument? = some a)
    (hfits : ∀ a ∈ args, (∀ c ∈ a.toList, isAsciiDigit c = true) →
      digitsValue a.toList < 2147483648)
    (h : List.Forall₂ (fun a t => Arg.ofText? a = some (.value t)) args ts) :
    ts.map Term.text = args := by
  induction h with
  | nil => rfl
  | @cons a t args ts hat _ ih =>
    obtain ⟨x, hx, ha⟩ := hargs a List.mem_cons_self
    rw [List.map_cons, Arg.text_of_ofText? hx ha (hfits a List.mem_cons_self) hat,
      ih (fun b hb => hargs b (List.mem_cons_of_mem a hb))
        fun b hb => hfits b (List.mem_cons_of_mem a hb)]

theorem literal_of_ofLiteral? {l : Literal} {p : Pattern} {ts : List Term} (hl : l.WellSpelled)
    (hfits : l.NumbersFit) (hp : Pattern.ofLiteral? l = some p) (hts : p.args = ts.map .value) :
    GroundAtom.literal ⟨p.predicate, ts⟩ = l ∧ isPredicateName p.predicate = true := by
  rw [Pattern.ofLiteral?, if_neg (args_ne_of_wellSpelled hl)] at hp
  split at hp
  · cases hp
  · next hname =>
    obtain ⟨as, has, rfl⟩ := Option.map_eq_some_iff.1 hp
    have hname : isConstantName l.predicate = true := by simpa using hname
    obtain rfl : as = ts.map .value := hts
    have hvalues := forall₂_of_mapM has
    rw [List.forall₂_map_right_iff] at hvalues
    have htexts := map_text_of_forall₂ hl.args hfits hvalues
    constructor
    · simp [GroundAtom.literal, htexts, unsignedName_of_isConstantName hname]
    · rw [isPredicateName, unsignedName_of_isConstantName hname, hname]

theorem Pattern.isConstantName_of_ofLiteral? {l : Literal} {p : Pattern}
    (h : ofLiteral? l = some p) : isConstantName p.predicate = true := by
  unfold ofLiteral? at h
  split at h
  · cases h
  next hname =>
  rw [Bool.not_eq_true', Bool.not_eq_false] at hname
  split at h
  · cases h
    exact hname
  · obtain ⟨as, -, rfl⟩ := Option.map_eq_some_iff.1 h
    exact hname

/-! ## Programs -/

theorem exists_parts_of_compile {rules : List Rule} {clauses : List Clause}
    (h : compile rules = .ok clauses) : ∃ parts, rules.mapM Clause.ofRule? = some parts ∧
      parts.flatten = clauses ∧ clauses.all Clause.isSafe = true := by
  unfold compile at h
  split at h
  · cases h
  next parts hparts =>
  dsimp only at h
  split at h
  · next hsafe =>
    cases h
    exact ⟨parts, hparts, rfl, hsafe⟩
  · cases h

theorem mem_parts_iff {rules : List Rule} {parts : List (List Clause)}
    (h : rules.mapM Clause.ofRule? = some parts) {c : Clause} :
    c ∈ parts.flatten ↔ ∃ r ∈ rules, ∃ cs, Clause.ofRule? r = some cs ∧ c ∈ cs := by
  constructor
  · intro hc
    obtain ⟨cs, hcs, hc⟩ := List.mem_flatten.1 hc
    obtain ⟨r, hr, hrule⟩ := exists_of_forall₂ (forall₂_of_mapM h).flip hcs
    exact ⟨r, hr, cs, hrule, hc⟩
  · rintro ⟨r, hr, cs, hrule, hc⟩
    obtain ⟨cs', hcs', hrule'⟩ := exists_of_forall₂ (forall₂_of_mapM h) hr
    cases hrule.symm.trans hrule'
    exact List.mem_flatten.2 ⟨cs, hcs', hc⟩

theorem of_compile {rules : List Rule} {clauses : List Clause} (h : compile rules = .ok clauses) :
    (∀ c ∈ clauses, c.isSafe = true) ∧
      ∀ c, c ∈ clauses ↔ ∃ r ∈ rules, ∃ cs, Clause.ofRule? r = some cs ∧ c ∈ cs := by
  obtain ⟨parts, hparts, rfl, hsafe⟩ := exists_parts_of_compile h
  exact ⟨List.all_eq_true.1 hsafe, fun c => mem_parts_iff hparts⟩

theorem compile_of_mem_iff {rules rules' : List Rule} {clauses : List Clause}
    (h : compile rules = .ok clauses) (hrules : ∀ r, r ∈ rules' ↔ r ∈ rules) :
    ∃ clauses', compile rules' = .ok clauses' ∧ ∀ c, c ∈ clauses' ↔ c ∈ clauses := by
  obtain ⟨parts, hparts, rfl, hsafe⟩ := exists_parts_of_compile h
  have hsome : (rules'.mapM Clause.ofRule?).isSome := isSome_mapM fun r hr => by
    obtain ⟨cs, -, hcs⟩ := exists_of_forall₂ (forall₂_of_mapM hparts) ((hrules r).1 hr)
    simp [hcs]
  obtain ⟨parts', hparts'⟩ := Option.isSome_iff_exists.1 hsome
  have hmem (c : Clause) : c ∈ parts'.flatten ↔ c ∈ parts.flatten := by
    simp only [mem_parts_iff hparts, mem_parts_iff hparts', hrules]
  have hsafe' : parts'.flatten.all Clause.isSafe = true :=
    List.all_eq_true.2 fun c hc => List.all_eq_true.1 hsafe c ((hmem c).1 hc)
  exact ⟨parts'.flatten, by simp only [compile, hparts', hsafe', if_true], hmem⟩

theorem exists_factClause_of_mem {rules : List Rule} {clauses : List Clause} {l : Literal}
    (hl : l.WellSpelled) (hmem : factRule l ∈ rules) (h : compile rules = .ok clauses) :
    ∃ (p : Pattern) (ts : List Term), factClause p ∈ clauses ∧ Pattern.ofLiteral? l = some p ∧
      p.args = ts.map .value := by
  obtain ⟨parts, hparts, rfl, hsafe⟩ := exists_parts_of_compile h
  obtain ⟨part, hpart, hrule⟩ := exists_of_forall₂ (forall₂_of_mapM hparts) hmem
  rw [ofRule?_factRule hl] at hrule
  obtain ⟨p, hp, rfl⟩ := Option.map_eq_some_iff.1 hrule
  have hclause : factClause p ∈ parts.flatten :=
    List.mem_flatten.2 ⟨_, hpart, List.mem_singleton_self _⟩
  obtain ⟨ts, hts⟩ := exists_values_of_isSafe (List.all_eq_true.1 hsafe _ hclause)
  exact ⟨p, ts, hclause, hp, hts⟩

theorem exists_factClause {rules : List Rule} {clauses : List Clause} {l : Literal}
    (hl : l.WellSpelled) (hfits : l.NumbersFit) (hmem : factRule l ∈ rules)
    (h : compile rules = .ok clauses) :
    ∃ p a, factClause p ∈ clauses ∧ p.eval? [] = some a ∧ a.literal = l ∧
      isPredicateName a.predicate = true := by
  obtain ⟨p, ts, hclause, hp, hts⟩ := exists_factClause_of_mem hl hmem h
  exact ⟨p, ⟨p.predicate, ts⟩, hclause, eval?_of_args hts, literal_of_ofLiteral? hl hfits hp hts⟩

end Solver

end AnswerSetLearning
