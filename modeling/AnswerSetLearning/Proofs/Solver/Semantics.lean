import AnswerSetLearning.Solver.StableModels
import Mathlib.Data.List.Forall2
import Mathlib.Data.Set.Basic

namespace AnswerSetLearning.Solver

abbrev Valuation := String → Term

inductive Arg.Matches (v : Valuation) : Arg → Term → Prop
  | value (t : Term) : Matches v (.value t) t
  | var (x : String) : Matches v (.var x) (v x)
  | anonymous (t : Term) : Matches v .anonymous t

structure Pattern.Matches (v : Valuation) (p : Pattern) (a : GroundAtom) : Prop where
  predicate : p.predicate = a.predicate
  args : List.Forall₂ (Arg.Matches v) p.args a.args

def Test.Holds (v : Valuation) (test : Test) : Prop :=
  ∃ s t, test.left.Matches v s ∧ test.right.Matches v t ∧ Relation.holds s t test.relation = true

def Pattern.absence (v : Valuation) (p : Pattern) : Absence where
  predicate := p.predicate
  args := p.args.map fun
    | .value t => some t
    | .var x => some (v x)
    | .anonymous => none

theorem Clause.mem_positive_iff {c : Clause} {p : Pattern} :
    p ∈ c.positive ↔ ⟨false, p⟩ ∈ c.atoms := by
  simp only [positive, List.mem_map, List.mem_filter]
  constructor
  · rintro ⟨⟨_ | _, _⟩, ⟨ho, h⟩, rfl⟩
    · exact ho
    · cases h
  · exact fun h => ⟨_, ⟨h, rfl⟩, rfl⟩

theorem Clause.mem_negative_iff {c : Clause} {p : Pattern} :
    p ∈ c.negative ↔ ⟨true, p⟩ ∈ c.atoms := by
  simp only [negative, List.mem_map, List.mem_filter]
  constructor
  · rintro ⟨⟨_ | _, _⟩, ⟨ho, h⟩, rfl⟩
    · cases h
    · exact ho
  · exact fun h => ⟨_, ⟨h, rfl⟩, rfl⟩

/-- The instance is what the clause says under the values. -/
structure Clause.Grounds (c : Clause) (v : Valuation) (i : Instance) : Prop where
  head : Option.Rel (Pattern.Matches v) c.head i.head
  positive : List.Forall₂ (Pattern.Matches v) c.positive i.positive
  negative : i.negative = c.negative.map (Pattern.absence v)
  tests : ∀ t ∈ c.tests, t.Holds v

theorem Clause.Grounds.exists_head {c : Clause} {v : Valuation} {i : Instance} {a : GroundAtom}
    (h : c.Grounds v i) (ha : i.head = some a) : ∃ p, c.head = some p ∧ p.Matches v a := by
  have hhead := h.head
  rw [ha] at hhead
  cases hp : c.head with
  | none =>
    rw [hp] at hhead
    cases hhead
  | some p =>
    rw [hp] at hhead
    cases hhead with
    | some hpa => exact ⟨p, rfl, hpa⟩

def Instance.Admits (i : Instance) (M : Set GroundAtom) : Prop :=
  ∀ n ∈ i.negative, ∀ a ∈ M, n.forbids a = false

theorem Absence.holds_iff {n : Absence} {atoms : List GroundAtom} :
    n.holds atoms = true ↔ ∀ a ∈ atoms, n.forbids a = false := by
  simp [holds]

theorem Instance.unblocked_iff {i : Instance} {atoms : List GroundAtom} :
    i.unblocked atoms = true ↔ i.Admits {a | a ∈ atoms} := by
  simp [unblocked, Admits, Absence.holds_iff]

/-- The atoms that follow by the clauses whose negated atoms are not in the set. -/
inductive Derives (clauses : List Clause) (M : Set GroundAtom) : GroundAtom → Prop
  | rule {c : Clause} {v : Valuation} {i : Instance} {a : GroundAtom} (hc : c ∈ clauses)
      (hi : c.Grounds v i) (ha : i.head = some a) (hM : i.Admits M)
      (hbody : ∀ b ∈ i.positive, Derives clauses M b) : Derives clauses M a

structure IsStable (clauses : List Clause) (M : Set GroundAtom) : Prop where
  mem_iff : ∀ a, a ∈ M ↔ Derives clauses M a
  constraints : ∀ c ∈ clauses, ∀ v i, c.Grounds v i → i.head = none → i.Admits M →
    ∃ a ∈ i.positive, a ∉ M
  consistent : ∀ a ∈ M, a.opposite ∉ M

def Clause.IsDefinite (c : Clause) : Prop := c.negative = []

theorem Clause.Grounds.admits {c : Clause} {v : Valuation} {i : Instance} (h : c.Grounds v i)
    (hc : c.IsDefinite) (M : Set GroundAtom) : i.Admits M := by
  intro n hn
  rw [h.negative, hc] at hn
  cases hn

end AnswerSetLearning.Solver
