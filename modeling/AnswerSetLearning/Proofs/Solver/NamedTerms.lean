import AnswerSetLearning.Proofs.Solver.FactNames
import AnswerSetLearning.Proofs.Solver.TermTexts

namespace AnswerSetLearning.Solver

/-! ## Values -/

namespace Term

theorem IsPlain.isNamed {t : Term} (h : t.IsPlain) : t.IsNamed := by
  cases h with
  | number => exact .number _
  | constant h => exact .functor (.constant h)

theorem IsNamed.isFunctor {f : String} (h : (constant f).IsNamed) : (constant f).IsFunctor := by
  cases h with
  | functor h => exact h

theorem IsFunctor.neg? {t u : Term} (h : t.IsFunctor) (hu : t.neg? = some u) : u.IsFunctor := by
  cases h with
  | constant h =>
    cases hu
    exact .opposite h
  | opposite h =>
    cases hu
    exact .constant h
  | tuple => cases hu

theorem neg?_root {t u : Term} (h : t.neg? = some u) : t.root.neg? = some u.root := by
  induction t generalizing u with
  | apply f a ihf _ =>
    obtain ⟨v, hv, rfl⟩ := Option.map_eq_some_iff.1 h
    exact ihf (u := v) hv
  | number n =>
    cases h
    rfl
  | constant f =>
    cases h
    rfl
  | opposite f =>
    cases h
    rfl
  | _ => cases h

theorem IsNamed.neg? {t u : Term} (h : t.IsNamed) (hu : t.neg? = some u) : u.IsNamed := by
  induction h generalizing u with
  | number n =>
    cases hu
    exact .number _
  | functor h => exact .functor (h.neg? hu)
  | apply _ hroot ha ihf _ =>
    obtain ⟨v, hv, rfl⟩ := Option.map_eq_some_iff.1 hu
    exact .apply (ihf hv) (hroot.neg? (neg?_root hv)) ha
  | _ => cases hu

end Term

namespace Expression

def IsNamed (e : Expression) : Prop := ∀ t, .value t ∈ e.values → t.IsNamed

structure IsFunction (e : Expression) : Prop where
  isNamed : e.IsNamed
  root : ∀ t, .value t ∈ e.values → t.root.IsFunctor

theorem isFunction_functor {t : Term} (h : t.IsFunctor) : (plain (.value t)).IsFunction where
  isNamed u hu := by
    cases List.mem_singleton.1 hu
    exact .functor h
  root u hu := by
    cases List.mem_singleton.1 hu
    cases h with
    | constant h => exact .constant h
    | opposite h => exact .opposite h
    | tuple => exact .tuple

theorem isNamed_plain {a : Arg} (h : ∀ t, a = .value t → t.IsNamed) : (plain a).IsNamed := by
  intro t ht
  cases a with
  | value u => exact h t (List.mem_singleton.1 ht).symm
  | var x => cases List.mem_singleton.1 ht
  | anonymous => cases List.mem_singleton.1 ht

theorem IsNamed.negation {e : Expression} (h : e.IsNamed) : e.negation.IsNamed := by
  intro t ht
  obtain ⟨a, ha, ht⟩ := List.mem_flatMap.1 ht
  cases a with
  | value u =>
    obtain ⟨v, hv, ht⟩ := List.mem_map.1 ht
    cases ht
    exact (h u ha).neg? (Option.mem_toList.1 hv)
  | var x => cases List.mem_singleton.1 ht
  | anonymous => cases List.mem_singleton.1 ht

theorem isNamed_of_numbers {e : Expression}
    (h : ∀ t, .value t ∈ e.values → ∃ n, t = .number n) : e.IsNamed := by
  intro t ht
  obtain ⟨n, rfl⟩ := h t ht
  exact .number n

theorem exists_number_of_mapNumber {f : Int → Int} {a : Arg} {t : Term}
    (h : .value t ∈ a.mapNumber f) : ∃ n, t = .number n := by
  unfold Arg.mapNumber at h
  split at h
  · cases List.mem_singleton.1 h
    exact ⟨_, rfl⟩
  · cases h
  · cases List.mem_singleton.1 h

theorem exists_number_of_operate {o : Operator} {a b : Arg} {t : Term}
    (h : .value t ∈ a.operate o b) : ∃ n, t = .number n := by
  unfold Arg.operate at h
  split at h
  · obtain ⟨n, -, hn⟩ := List.mem_map.1 h
    cases hn
    exact ⟨n, rfl⟩
  · split at h
    · cases List.mem_singleton.1 h
    · cases h

theorem isNamed_complement (e : Expression) : e.complement.IsNamed := by
  refine isNamed_of_numbers fun t ht => ?_
  obtain ⟨a, -, ht⟩ := List.mem_flatMap.1 ht
  exact exists_number_of_mapNumber ht

theorem isNamed_absolute (e : Expression) : e.absolute.IsNamed := by
  refine isNamed_of_numbers fun t ht => ?_
  obtain ⟨a, -, ht⟩ := List.mem_flatMap.1 ht
  exact exists_number_of_mapNumber ht

theorem isNamed_operation (o : Operator) (e f : Expression) : (operation o e f).IsNamed := by
  refine isNamed_of_numbers fun t ht => ?_
  obtain ⟨a, -, ht⟩ := List.mem_flatMap.1 ht
  obtain ⟨b, -, ht⟩ := List.mem_flatMap.1 ht
  exact exists_number_of_operate ht

theorem IsNamed.either {e f : Expression} (he : e.IsNamed) (hf : f.IsNamed) :
    (e.either f).IsNamed := fun t ht => (List.mem_append.1 ht).elim (he t) (hf t)

theorem IsFunction.apply {e a : Expression} (he : e.IsFunction) (ha : a.IsNamed) :
    (e.apply a).IsFunction := by
  have hvalue {t : Term} (ht : .value t ∈ (e.apply a).values) :
      ∃ f u, .value f ∈ e.values ∧ .value u ∈ a.values ∧ t = .apply f u := by
    obtain ⟨x, hx, ht⟩ := List.mem_flatMap.1 ht
    obtain ⟨y, hy, ht⟩ := List.mem_map.1 ht
    unfold Arg.applyTo at ht
    split at ht
    · cases ht
      exact ⟨_, _, hx, hy, rfl⟩
    · cases ht
  refine ⟨fun t ht => ?_, fun t ht => ?_⟩
  · obtain ⟨f, u, hf, hu, rfl⟩ := hvalue ht
    exact .apply (he.isNamed f hf) (he.root f hf) (ha u hu)
  · obtain ⟨f, u, hf, hu, rfl⟩ := hvalue ht
    exact he.root f hf

theorem IsFunction.foldl {e : Expression} (he : e.IsFunction) {items : List Expression}
    (hitems : ∀ a ∈ items, a.IsNamed) : (items.foldl Expression.apply e).IsFunction :=
  List.foldlRecOn (motive := IsFunction) items _ he fun _ he a ha => he.apply (hitems a ha)

theorem isNamed_ofItems? {function : Option Expression} (hf : ∀ f ∈ function, f.IsFunction)
    {items : List Expression} (hitems : ∀ a ∈ items, a.IsNamed) {comma : Bool} {e : Expression}
    (h : ofItems? function items comma = some e) : e.IsNamed := by
  unfold ofItems? at h
  split at h
  · cases h
    exact ((hf _ rfl).foldl hitems).isNamed
  · cases h
  · cases h
    exact hitems e (List.mem_singleton_self e)
  · cases h
    exact ((isFunction_functor .tuple).foldl hitems).isNamed

end Expression

/-! ## Reading -/

namespace FactToken

def IsNamed (x : FactToken) : Prop := ∀ t, x = plain (.value t) → t.IsNamed

theorem isNamed_of_ofWord? {cs : List Char} {a : Arg} (h : Arg.ofWord? cs = some a) :
    (plain a).IsNamed := by
  rintro t ⟨⟩
  exact (Arg.isPlain_of_ofText? (s := .ofList cs)
    (by rwa [Arg.ofText?, String.toList_ofList])).isNamed

theorem isNamed_of_piece? {cs : List Char} {x : FactToken} {n : Nat}
    (h : piece? cs = some (some x, n)) : x.IsNamed := by
  unfold piece? at h
  split at h
  · cases h
    rintro t ⟨⟩
  · cases h
    rintro t ⟨⟩
  · obtain ⟨s, -, h⟩ := Option.map_eq_some_iff.1 h
    cases h
    rintro t ⟨⟩
    exact .quoted _
  · obtain ⟨u, hu, h⟩ := Option.map_eq_some_iff.1 h
    cases h
    rintro t ⟨⟩
    unfold bound? at hu
    split at hu <;> cases hu
    · exact .infimum
    · exact .infimum
    · exact .supremum
    · exact .supremum
  · split at h
    · cases h
    split at h
    · cases h
      rintro t ⟨⟩
    · obtain ⟨a, ha, h⟩ := Option.map_eq_some_iff.1 h
      cases h
      exact isNamed_of_ofWord? ha
  · cases h

theorem isNamed_of_all? {skip : Nat} {cs : List Char} {ts : List FactToken}
    (h : all? skip cs = some ts) : ∀ x ∈ ts, x.IsNamed := by
  induction skip, cs using all?.induct generalizing ts with
  | case1 =>
    cases h
    simp
  | case2 skip c cs ih => exact ih h
  | case3 c cs ih =>
    obtain ⟨⟨token?, size⟩, hpiece, h⟩ := Option.bind_eq_some_iff.1 h
    obtain ⟨tokens, htokens, rfl⟩ := Option.map_eq_some_iff.1 h
    intro x hx
    rcases List.mem_append.1 hx with hx | hx
    · rw [Option.mem_toList] at hx
      exact isNamed_of_piece? (hpiece.trans (by rw [hx]))
    · exact ih _ htokens x hx

end FactToken

def Reads {α : Type} (P : α → Prop) (reading : Reading α) : Prop :=
  ∀ a ts, reading = some (a, ts) → P a ∧ ∀ x ∈ ts, x.IsNamed

namespace Reads

variable {α β : Type} {P : α → Prop} {Q : β → Prop} {reading : Reading α}

theorem none : Reads P none := fun _ _ h => nomatch h

theorem some {a : α} {ts : List FactToken} (ha : P a) (hts : ∀ x ∈ ts, x.IsNamed) :
    Reads P (some (a, ts)) := by
  rintro _ _ ⟨⟩
  exact ⟨ha, hts⟩

theorem bind (h : Reads P reading) {f : α × List FactToken → Reading β}
    (hf : ∀ a ts, P a → (∀ x ∈ ts, x.IsNamed) → Reads Q (f (a, ts))) :
    Reads Q (reading.bind f) := by
  intro b ts hb
  obtain ⟨⟨a, rest⟩, ha, hb⟩ := Option.bind_eq_some_iff.1 hb
  obtain ⟨haP, hrest⟩ := h a rest ha
  exact hf a rest haP hrest b ts hb

theorem map (h : Reads P reading) {f : α → β} (hf : ∀ a, P a → Q (f a)) :
    Reads Q (reading.map fun r => (f r.1, r.2)) := by
  intro b ts hb
  obtain ⟨⟨a, rest⟩, ha, hb⟩ := Option.map_eq_some_iff.1 hb
  cases hb
  obtain ⟨haP, hrest⟩ := h a rest ha
  exact ⟨hf a haP, hrest⟩

end Reads

/-- What the readers make of named tokens with some fuel. -/
structure ReadsNamed (fuel : Nat) : Prop where
  expression : ∀ level ts, (∀ x ∈ ts, x.IsNamed) →
    Reads Expression.IsNamed (readExpression fuel level ts)
  operations : ∀ level (e : Expression) ts, e.IsNamed → (∀ x ∈ ts, x.IsNamed) →
    Reads Expression.IsNamed (readOperations fuel level e ts)
  operand : ∀ ts, (∀ x ∈ ts, x.IsNamed) → Reads Expression.IsNamed (readOperand fuel ts)
  choice : ∀ ts, (∀ x ∈ ts, x.IsNamed) → Reads Expression.IsNamed (readChoice fuel ts)
  group : ∀ (function : Option Expression) ts, (∀ f ∈ function, f.IsFunction) →
    (∀ x ∈ ts, x.IsNamed) → Reads Expression.IsNamed (readGroup fuel function ts)
  items : ∀ ts, (∀ x ∈ ts, x.IsNamed) →
    Reads (fun read : List Expression × Bool => ∀ e ∈ read.1, e.IsNamed) (readItems fuel ts)

theorem readsNamed (fuel : Nat) : ReadsNamed fuel := by
  have htail {x : FactToken} {ts : List FactToken} (h : ∀ y ∈ x :: ts, y.IsNamed) :
      ∀ y ∈ ts, y.IsNamed := fun y hy => h y (List.mem_cons_of_mem x hy)
  -- The readers call each other with less fuel, so the induction is for all of them at once.
  induction fuel with
  | zero => constructor <;> intros <;> exact .none
  | succ fuel ih =>
    constructor
    case expression =>
      intro level ts hts
      rw [readExpression]
      exact (ih.operand ts hts).bind fun e rest he hrest => ih.operations level e rest he hrest
    case operations =>
      intro level e ts he hts
      unfold readOperations
      split
      · split
        · exact (ih.expression _ _ (htail hts)).bind fun f rest hf hrest =>
            ih.operations level _ rest (Expression.isNamed_operation _ e f) hrest
        · exact .some he hts
      · exact .some he hts
    case operand =>
      intro ts hts
      unfold readOperand
      split
      · exact (ih.operand _ (htail hts)).map fun e he => he.negation
      · exact (ih.operand _ (htail hts)).map fun e _ => e.isNamed_complement
      · exact (ih.choice _ (htail hts)).map fun e _ => e.isNamed_absolute
      · exact ih.group none _ (by simp) (htail hts)
      · have hf := (hts _ List.mem_cons_self _ rfl).isFunctor
        refine ih.group _ _ ?_ (htail (htail hts))
        rintro _ ⟨⟩
        exact Expression.isFunction_functor hf
      · exact .some (Expression.isNamed_plain fun t ht => hts _ List.mem_cons_self t (by rw [ht]))
          (htail hts)
      · exact .none
    case choice =>
      intro ts hts
      unfold readChoice
      have hread := ih.expression 0 ts hts
      split
      · next e rest heq =>
        obtain ⟨he, hrest⟩ := hread _ _ heq
        exact .some he (htail hrest)
      · next e rest heq =>
        obtain ⟨he, hrest⟩ := hread _ _ heq
        exact (ih.choice _ (htail hrest)).map fun f hf => he.either hf
      · exact .none
    case group =>
      intro function ts hfunction hts
      unfold readGroup
      have hread := ih.items ts hts
      split
      · next items comma rest heq =>
        obtain ⟨hitems, hrest⟩ := hread _ _ heq
        intro e ts he
        obtain ⟨f, hf, he⟩ := Option.map_eq_some_iff.1 he
        cases he
        exact ⟨Expression.isNamed_ofItems? hfunction hitems hf, htail hrest⟩
      · next items comma rest heq =>
        obtain ⟨hitems, hrest⟩ := hread _ _ heq
        intro e ts he
        obtain ⟨f, hf, he⟩ := Option.bind_eq_some_iff.1 he
        have hf := Expression.isNamed_ofItems? hfunction hitems hf
        exact (ih.group function _ hfunction (htail hrest)).map (fun g hg => hf.either hg) e ts he
      · exact .none
    case items =>
      intro ts hts
      unfold readItems
      split
      · exact .some (by simp) hts
      · exact .some (by simp) hts
      · refine (ih.expression 0 _ hts).bind fun e rest he hrest => ?_
        have hone : ∀ f ∈ [e], f.IsNamed := List.forall_mem_singleton.2 he
        dsimp only
        split
        · exact .some hone (htail hrest)
        · exact .some hone (htail hrest)
        · exact (ih.items _ (htail hrest)).map (f := fun read => (e :: read.1, read.2))
            fun read hread => List.forall_mem_cons.2 ⟨he, hread⟩
        · exact .some hone hrest

/-! ## Programs -/

theorem isNamed_of_readFact? {ts : List FactToken} (hts : ∀ x ∈ ts, x.IsNamed) {e : Expression}
    (h : readFact? ts = some e) : e.IsNamed := by
  have hatom {ts : List FactToken} (hts : ∀ x ∈ ts, x.IsNamed) {e : Expression}
      (h : readAtom? ts = some e) : e.IsNamed := by
    unfold readAtom? at h
    split at h
    · split at h
      · next hread =>
        cases h
        exact ((readsNamed _).operand _ hts _ _ hread).1
      · cases h
    · cases h
  unfold readFact? at h
  split at h
  · obtain ⟨f, hf, rfl⟩ := Option.map_eq_some_iff.1 h
    exact (hatom (fun x hx => hts x (List.mem_cons_of_mem _ hx)) hf).negation
  · exact hatom hts h

theorem Pattern.isNamed_of_ofFact? {l : Literal} {ps : List Pattern} (h : ofFact? l = some ps)
    {p : Pattern} (hp : p ∈ ps) : ∀ t ∈ p.terms, t.IsNamed := by
  unfold ofFact? at h
  split at h
  · next q hq =>
    cases h
    cases List.mem_singleton.1 hp
    exact fun t ht => (isPlain_of_ofLiteral? hq t ht).isNamed
  · obtain ⟨e, he, rfl⟩ := Option.map_eq_some_iff.1 h
    obtain ⟨tokens, htokens, he⟩ := Option.bind_eq_some_iff.1 he
    have he := isNamed_of_readFact? (FactToken.isNamed_of_all? htokens) he
    obtain ⟨a, ha, rfl⟩ := List.mem_map.1 hp
    intro t ht
    cases a with
    | value u =>
      obtain ⟨b, hb, hbt⟩ := List.mem_filterMap.1 ht
      obtain ⟨s, hs, rfl⟩ := List.mem_map.1 hb
      cases hbt
      exact (he u ha).of_mem_args _ hs
    | var x => cases ht
    | anonymous => cases ht

theorem Clause.supplies_isNamed {r : Rule} {cs : List Clause} (h : ofRule? r = some cs)
    {c : Clause} (hc : c ∈ cs) : c.Supplies Term.IsNamed where
  head p hp := by
    rcases of_ofRule? h hc with ⟨l, ps, q, -, -, hps, hq, rfl⟩ | ⟨head, hhead, hgrows⟩
    · cases hp
      exact Pattern.isNamed_of_ofFact? hps hq
    · obtain ⟨l, -, hl⟩ := hhead p (hgrows.head.symm.trans hp)
      exact fun t ht => (Pattern.isPlain_of_ofLiteral? hl t ht).isNamed
  ranges _ _ _ n _ := .number n

theorem supplies_isNamed_of_compileProgram {rules : List Rule} {facts : List LitSet}
    {registry : Registry} {clauses : List Clause}
    (h : compileProgram rules facts registry = .ok clauses) :
    ∀ c ∈ clauses, c.Supplies Term.IsNamed := by
  obtain ⟨ls, -, hcompile⟩ := compileProgram_eq_ok_iff.1 h
  intro c hc
  obtain ⟨r, -, cs, hcs, hmem⟩ := ((of_compile hcompile).2 c).1 hc
  exact Clause.supplies_isNamed hcs hmem

end AnswerSetLearning.Solver
