import AnswerSetLearning.Proofs.Solver.Models
import AnswerSetLearning.Solver.Query

namespace AnswerSetLearning.Solver

namespace Clause

/-- `c` has become `c'` by elements of a body. -/
structure Grows (c : Clause) (es : List BodyElement) (c' : Clause) : Prop where
  head : c'.head = c.head
  atoms : ∀ o ∈ c'.atoms, o ∈ c.atoms ∨
    ∃ l, .atom o.negated l ∈ es ∧ Pattern.ofLiteral? l = some o.atom
  tests : ∀ t ∈ c'.tests, t ∈ c.tests ∨
    ∃ l r, Arg.ofText? l = some t.left ∧ Arg.ofText? r = some t.right

theorem grows_of_addElement {c c' : Clause} {e : BodyElement} (h : c.addElement e = some c') :
    c.Grows [e] c' := by
  cases e with
  | atom negated l =>
    obtain ⟨p, hp, rfl⟩ := Option.map_eq_some_iff.1 h
    refine ⟨rfl, fun o ho => ?_, fun t ht => .inl ht⟩
    rcases List.mem_append.1 ho with ho | ho
    · exact .inl ho
    · cases List.mem_singleton.1 ho
      exact .inr ⟨l, List.mem_singleton_self _, hp⟩
  | comparison r left right =>
    obtain ⟨a, ha, h⟩ := Option.bind_eq_some_iff.1 h
    obtain ⟨b, hb, h⟩ := Option.bind_eq_some_iff.1 h
    cases h
    refine ⟨rfl, fun o ho => .inl ho, fun t ht => ?_⟩
    rcases List.mem_append.1 ht with ht | ht
    · exact .inl ht
    · cases List.mem_singleton.1 ht
      exact .inr ⟨left, right, ha, hb⟩

theorem grows_of_addElements {c c' : Clause} {es : List BodyElement}
    (h : c.addElements es = some c') : c.Grows es c' := by
  induction es generalizing c with
  | nil =>
    cases h
    exact ⟨rfl, fun o ho => .inl ho, fun t ht => .inl ht⟩
  | cons e es ih =>
    obtain ⟨d, hd, h⟩ := Option.bind_eq_some_iff.1 h
    have hd := grows_of_addElement hd
    have h := ih h
    refine ⟨h.head.trans hd.head, fun o ho => ?_, fun t ht => ?_⟩
    · rcases h.atoms o ho with ho | ⟨l, hl, hp⟩
      · rcases hd.atoms o ho with ho | ⟨l, hl, hp⟩
        · exact .inl ho
        · exact .inr ⟨l, List.mem_cons.2 (.inl (List.mem_singleton.1 hl)), hp⟩
      · exact .inr ⟨l, List.mem_cons_of_mem e hl, hp⟩
    · exact (h.tests t ht).elim (hd.tests t) .inr

theorem of_ofRule? {r : Rule} {cs : List Clause} (h : ofRule? r = some cs) {c : Clause}
    (hc : c ∈ cs) :
    (∃ l ps p, r.head = some l ∧ r.body = [] ∧ Pattern.ofFact? l = some ps ∧ p ∈ ps ∧
        c = ⟨some p, [], []⟩) ∨
      ∃ head, (∀ p, head = some p → ∃ l, r.head = some l ∧ Pattern.ofLiteral? l = some p) ∧
        Grows ⟨head, [], []⟩ r.body c := by
  unfold ofRule? at h
  split at h
  · cases h
  · obtain ⟨d, hd, rfl⟩ := Option.map_eq_some_iff.1 h
    cases List.mem_singleton.1 hc
    exact .inr ⟨none, by simp, grows_of_addElements hd⟩
  · next l hl hbody =>
    obtain ⟨ps, hps, rfl⟩ := Option.map_eq_some_iff.1 h
    obtain ⟨p, hp, rfl⟩ := List.mem_map.1 hc
    exact .inl ⟨l, ps, p, hl, hbody, hps, hp, rfl⟩
  · next l hl _ =>
    obtain ⟨p, hp, h⟩ := Option.bind_eq_some_iff.1 h
    obtain ⟨d, hd, rfl⟩ := Option.map_eq_some_iff.1 h
    cases List.mem_singleton.1 hc
    exact .inr ⟨some p, fun q hq => ⟨l, hl, Option.some.inj hq ▸ hp⟩, grows_of_addElements hd⟩

end Clause

theorem compileProgram_eq_ok_iff {rules : List Rule} {facts : List LitSet} {registry : Registry}
    {clauses : List Clause} : compileProgram rules facts registry = .ok clauses ↔
      ∃ ls, registry.resolve (facts.flatMap SortedSet.items) = .ok ls ∧
        compile (rules ++ ls.map factRule) = .ok clauses := by
  unfold compileProgram program
  cases registry.resolve (facts.flatMap SortedSet.items) with
  | error e => simp [Except.map]
  | ok ls =>
    simp only [Except.map, Except.ok.injEq, exists_eq_left']
    cases compile (rules ++ ls.map factRule) <;> simp

end AnswerSetLearning.Solver
