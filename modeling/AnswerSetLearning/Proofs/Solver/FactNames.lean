import AnswerSetLearning.Proofs.Solver.GroundFacts

namespace AnswerSetLearning.Solver

/-! ## Tokens -/

theorem Arg.isConstantName_of_ofWord? {cs : List Char} {f : String}
    (h : ofWord? cs = some (value (.constant f))) : isConstantName f = true := by
  rcases cases_of_ofWord? h with h | ⟨x, -, h⟩ | ⟨g, hg, h⟩ | ⟨n, -, h⟩
  · cases h
  · cases h
  · cases h
    exact hg
  · cases h

namespace FactToken

theorem isConstantName_of_piece? {cs : List Char} {f : String} {n : Nat}
    (h : piece? cs = some (some (plain (.value (.constant f))), n)) : isConstantName f = true := by
  unfold piece? at h
  split at h
  · cases h
  · cases h
  · obtain ⟨x, -, h⟩ := Option.map_eq_some_iff.1 h
    cases h
  · next cs =>
    obtain ⟨t, ht, h⟩ := Option.map_eq_some_iff.1 h
    cases h
    unfold bound? at ht
    split at ht <;> cases ht
  · split at h
    · cases h
    split at h
    · cases h
    · obtain ⟨a, ha, h⟩ := Option.map_eq_some_iff.1 h
      cases h
      exact Arg.isConstantName_of_ofWord? ha
  · cases h

theorem isConstantName_of_all? {skip : Nat} {cs : List Char} {ts : List FactToken}
    (h : all? skip cs = some ts) {f : String} (hf : plain (.value (.constant f)) ∈ ts) :
    isConstantName f = true := by
  induction skip, cs using all?.induct generalizing ts with
  | case1 =>
    cases h
    cases hf
  | case2 skip c cs ih => exact ih h hf
  | case3 c cs ih =>
    obtain ⟨⟨token?, size⟩, hpiece, h⟩ := Option.bind_eq_some_iff.1 h
    obtain ⟨tokens, htokens, rfl⟩ := Option.map_eq_some_iff.1 h
    rcases List.mem_append.1 hf with hf | hf
    · rw [Option.mem_toList] at hf
      exact isConstantName_of_piece? (hpiece.trans (by rw [hf]))
    · exact ih _ htokens hf

end FactToken

/-! ## Names of values -/

theorem Term.spine_root (t : Term) : t.root.spine.1 = t.spine.1 := by
  induction t with
  | apply f a ih _ => exact ih
  | _ => rfl

theorem Term.root_of_neg? {t u : Term} (h : t.neg? = some u) {f : String}
    (ht : t.root = .constant f) : u.root = .opposite f := by
  induction t generalizing u with
  | constant g =>
    cases ht
    cases h
    rfl
  | apply g a ih _ =>
    obtain ⟨v, hv, rfl⟩ := Option.map_eq_some_iff.1 h
    exact ih (u := v) hv ht
  | _ => cases ht

namespace Expression

def IsCalled (e : Expression) (r : Term) : Prop := ∀ t, .value t ∈ e.values → t.root = r

namespace IsCalled

variable {e : Expression} {r : Term}

theorem apply (h : e.IsCalled r) (a : Expression) : (e.apply a).IsCalled r := by
  intro t ht
  obtain ⟨x, hx, ht⟩ := List.mem_flatMap.1 ht
  obtain ⟨y, -, ht⟩ := List.mem_map.1 ht
  unfold Arg.applyTo at ht
  split at ht
  · cases ht
    have hroot := h _ hx
    exact hroot
  · cases ht

theorem foldl (h : e.IsCalled r) (items : List Expression) :
    (items.foldl Expression.apply e).IsCalled r := by
  induction items generalizing e with
  | nil => exact h
  | cons a items ih => exact ih (h.apply a)

theorem either (h : e.IsCalled r) {e' : Expression} (h' : e'.IsCalled r) :
    (e.either e').IsCalled r := fun t ht => (List.mem_append.1 ht).elim (h t) (h' t)

theorem negation {f : String} (h : e.IsCalled (.constant f)) :
    e.negation.IsCalled (.opposite f) := by
  intro t ht
  obtain ⟨x, hx, ht⟩ := List.mem_flatMap.1 ht
  cases x with
  | value u =>
    obtain ⟨v, hv, ht⟩ := List.mem_map.1 ht
    cases ht
    exact Term.root_of_neg? (Option.mem_toList.1 hv) (h u hx)
  | var z => cases List.mem_singleton.1 ht
  | anonymous => cases List.mem_singleton.1 ht

theorem of_readGroup (h : e.IsCalled r) {fuel : Nat} {ts rest : List FactToken} {e' : Expression}
    (hread : readGroup fuel (some e) ts = some (e', rest)) : e'.IsCalled r := by
  have hitems {items : List Expression} {comma : Bool} {e' : Expression}
      (he : ofItems? (some e) items comma = some e') : e'.IsCalled r := by
    cases comma with
    | false =>
      cases he
      exact h.foldl items
    | true => cases he
  induction fuel generalizing ts e' with
  | zero => cases hread
  | succ fuel ih =>
    rw [readGroup] at hread
    split at hread
    · obtain ⟨f, hf, heq⟩ := Option.map_eq_some_iff.1 hread
      cases heq
      exact hitems hf
    · obtain ⟨f, hf, hread⟩ := Option.bind_eq_some_iff.1 hread
      obtain ⟨⟨g, rest'⟩, hg, heq⟩ := Option.map_eq_some_iff.1 hread
      cases heq
      exact (hitems hf).either (ih hg)
    · cases hread

end IsCalled

theorem isCalled_constant (f : String) :
    (plain (.value (.constant f))).IsCalled (.constant f) := by
  intro t ht
  cases List.mem_singleton.1 ht
  rfl

theorem exists_isCalled_of_readAtom? {ts : List FactToken} {e : Expression}
    (h : readAtom? ts = some e) :
    ∃ f, .plain (.value (.constant f)) ∈ ts ∧ e.IsCalled (.constant f) := by
  unfold readAtom? at h
  split at h
  · next f ts =>
    split at h
    · next hread =>
      cases h
      refine ⟨f, List.mem_cons_self, ?_⟩
      unfold readOperand at hread
      split at hread
      · cases hread
      · split at hread
        case h_5 heq =>
          cases heq
          exact (isCalled_constant f).of_readGroup hread
        case h_6 heq =>
          cases heq
          cases hread
          exact isCalled_constant f
        case h_7 => cases hread
        all_goals
          next heq => cases heq
    · cases h
  · cases h

theorem exists_isCalled_of_readFact? {ts : List FactToken} {e : Expression}
    (h : readFact? ts = some e) :
    ∃ f, .plain (.value (.constant f)) ∈ ts ∧
      (e.IsCalled (.constant f) ∨ e.IsCalled (.opposite f)) := by
  unfold readFact? at h
  split at h
  · obtain ⟨e, he, rfl⟩ := Option.map_eq_some_iff.1 h
    obtain ⟨f, hf, he⟩ := exists_isCalled_of_readAtom? he
    exact ⟨f, List.mem_cons_of_mem _ hf, .inr he.negation⟩
  · obtain ⟨f, hf, he⟩ := exists_isCalled_of_readAtom? h
    exact ⟨f, hf, .inl he⟩

end Expression

/-! ## Facts -/

theorem isPredicateName_of_isConstantName {s : String} (h : isConstantName s = true) :
    isPredicateName s = true := by
  rw [isPredicateName, unsignedName_of_isConstantName h, h]

theorem isPredicateName_of_opposite {s : String} (h : isConstantName s = true) :
    isPredicateName ("-" ++ s) = true := by
  have hunsigned : unsignedName ("-" ++ s) = s := by
    simp [unsignedName]
  rw [isPredicateName, hunsigned, h]

theorem Pattern.exists_value_of_ofValue {a : Arg} {ts : List Term}
    (h : (ofValue a).args = ts.map .value) : ∃ t, a = .value t := by
  have hunknown {a : Arg} (h : [a] = ts.map .value) : ∃ t, a = .value t := by
    obtain ⟨t, -, ht⟩ := List.mem_map.1 (h ▸ List.mem_singleton_self a)
    exact ⟨t, ht.symm⟩
  cases a with
  | value t => exact ⟨t, rfl⟩
  | var x => exact hunknown h
  | anonymous => exact hunknown h

theorem Pattern.isPredicateName_of_ofFact? {l : Literal} {ps : List Pattern}
    (h : ofFact? l = some ps) {p : Pattern} (hp : p ∈ ps) {ts : List Term}
    (hts : p.args = ts.map .value) : isPredicateName p.predicate = true := by
  unfold ofFact? at h
  split at h
  · next q hq =>
    cases h
    cases List.mem_singleton.1 hp
    exact isPredicateName_of_isConstantName (isConstantName_of_ofLiteral? hq)
  · obtain ⟨e, he, rfl⟩ := Option.map_eq_some_iff.1 h
    obtain ⟨tokens, htokens, he⟩ := Option.bind_eq_some_iff.1 he
    obtain ⟨a, ha, rfl⟩ := List.mem_map.1 hp
    obtain ⟨f, hf, hcalled⟩ := Expression.exists_isCalled_of_readFact? he
    have hname := FactToken.isConstantName_of_all? htokens hf
    obtain ⟨t, rfl⟩ := exists_value_of_ofValue hts
    rw [ofValue, ← t.spine_root]
    rcases hcalled with hcalled | hcalled
    · rw [hcalled t ha]
      exact isPredicateName_of_isConstantName hname
    · rw [hcalled t ha]
      exact isPredicateName_of_opposite hname

theorem exists_toList_text (l : Literal) :
    ∃ rest, l.text.toList = l.predicate.toList ++ rest ∧
      ∀ c ∈ rest.head?, isNameChar c = false := by
  cases hargs : l.args with
  | nil => exact ⟨[], by simp [Literal.text, hargs], by simp⟩
  | cons a args =>
    refine ⟨'(' :: ((joinWith ", " l.args).toList ++ [')']), by simp [Literal.text, hargs], ?_⟩
    rintro c ⟨⟩
    decide

theorem Pattern.isConstantName_of_ofFact? {l : Literal} {ps : List Pattern}
    (hl : isConstantName l.predicate = true) (h : ofFact? l = some ps) {p : Pattern}
    (hp : p ∈ ps) {ts : List Term} (hts : p.args = ts.map .value) :
    isConstantName p.predicate = true := by
  unfold ofFact? at h
  split at h
  · next q hq =>
    cases h
    cases List.mem_singleton.1 hp
    exact isConstantName_of_ofLiteral? hq
  · obtain ⟨e, he, rfl⟩ := Option.map_eq_some_iff.1 h
    obtain ⟨tokens, htokens, he⟩ := Option.bind_eq_some_iff.1 he
    obtain ⟨a, ha, rfl⟩ := List.mem_map.1 hp
    -- The text starts with the name, so no sign is taken off.
    obtain ⟨x, rest, rfl⟩ : ∃ x rest, tokens = .plain x :: rest := by
      have hname := (Bool.and_eq_true_iff.1 hl).1
      obtain ⟨suffix, htext, hsuffix⟩ := exists_toList_text l
      rw [htext, FactToken.all?_word (ne_nil_of_isNameOf hname)
        (FactToken.isNameChar_of_isNameOf (fun _ => FactToken.isNameChar_of_isLowerLetter) hname)
        hsuffix] at htokens
      obtain ⟨x, -, htokens⟩ := Option.bind_eq_some_iff.1 htokens
      obtain ⟨rest, -, rfl⟩ := Option.map_eq_some_iff.1 htokens
      exact ⟨x, rest, rfl⟩
    obtain ⟨f, hf, hcalled⟩ := Expression.exists_isCalled_of_readAtom? he
    obtain ⟨t, rfl⟩ := exists_value_of_ofValue hts
    rw [ofValue, ← t.spine_root, hcalled t ha]
    exact FactToken.isConstantName_of_all? htokens hf

/-! ## Clauses -/

theorem Pattern.isUnprimed_of_values {p : Pattern} {ts : List Term} (h : p.args = ts.map .value) :
    p.IsUnprimed := by
  intro x hx
  rw [vars, h, List.filterMap_map] at hx
  obtain ⟨t, -, ht⟩ := List.mem_filterMap.1 hx
  cases ht

theorem Arg.isNameOf_of_ofWord? {cs : List Char} {x : String} (h : ofWord? cs = some (var x)) :
    isNameOf isUpperLetter x.toList = true := by
  rcases cases_of_ofWord? h with h | ⟨y, hy, h⟩ | ⟨f, -, h⟩ | ⟨n, -, h⟩
  · cases h
  · cases h
    exact hy
  · cases h
  · cases h

theorem Pattern.isUnprimed_of_ofLiteral? {l : Literal} {p : Pattern} (h : ofLiteral? l = some p) :
    p.IsUnprimed := by
  rintro x hx y rfl
  unfold ofLiteral? at h
  split at h
  · cases h
  split at h
  · cases h
    cases hx
  · obtain ⟨args, hargs, rfl⟩ := Option.map_eq_some_iff.1 h
    obtain ⟨a, ha, hvar⟩ := List.mem_filterMap.1 hx
    obtain ⟨s, -, hs⟩ := exists_of_forall₂ (forall₂_of_mapM hargs).flip ha
    cases a with
    | var z =>
      cases hvar
      have hslash := FactToken.isNameChar_of_isNameOf
        (fun _ => FactToken.isNameChar_of_isUpperLetter) (Arg.isNameOf_of_ofWord? hs) '/' (by simp)
      cases hslash
    | _ => cases hvar

theorem Clause.isRead_of_ofRule? {r : Rule} {cs : List Clause} (h : ofRule? r = some cs)
    {c : Clause} (hc : c ∈ cs) (hsafe : c.isSafe = true) : c.IsRead := by
  refine ⟨hsafe, ?_, ?_⟩
  · rcases of_ofRule? h hc with ⟨l, ps, p, -, -, hps, hp, rfl⟩ | ⟨head, hhead, hgrows⟩
    · rintro _ ⟨⟩
      obtain ⟨ts, hts⟩ := exists_values_of_isSafe (p := p) hsafe
      exact ⟨Pattern.isPredicateName_of_ofFact? hps hp hts, Pattern.isUnprimed_of_values hts⟩
    · intro p hp
      rw [hgrows.head] at hp
      obtain ⟨l, -, hl⟩ := hhead p hp
      exact ⟨isPredicateName_of_isConstantName (Pattern.isConstantName_of_ofLiteral? hl),
        Pattern.isUnprimed_of_ofLiteral? hl⟩
  · rcases of_ofRule? h hc with ⟨l, ps, p, -, -, -, -, rfl⟩ | ⟨head, -, hgrows⟩
    · rintro o ⟨⟩
    · intro o ho
      rcases hgrows.atoms o ho with ho | ⟨l, -, hl⟩
      · cases ho
      · exact ⟨Pattern.isConstantName_of_ofLiteral? hl, Pattern.isPlain_of_ofLiteral? hl⟩

theorem isRead_of_compileProgram {rules : List Rule} {facts : List LitSet} {registry : Registry}
    {clauses : List Clause} (h : compileProgram rules facts registry = .ok clauses) :
    ∀ c ∈ clauses, c.IsRead := by
  obtain ⟨ls, -, hcompile⟩ := compileProgram_eq_ok_iff.1 h
  obtain ⟨hsafe, hclauses⟩ := of_compile hcompile
  intro c hc
  obtain ⟨r, -, cs, hcs, hmem⟩ := (hclauses c).1 hc
  exact Clause.isRead_of_ofRule? hcs hmem (hsafe c hc)

end AnswerSetLearning.Solver
