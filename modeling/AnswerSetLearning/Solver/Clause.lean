import AnswerSetLearning.Solver.Bounds
import AnswerSetLearning.Solver.Fact

namespace AnswerSetLearning.Solver

structure Occurrence where
  negated : Bool
  atom : Pattern
  deriving DecidableEq

structure Clause where
  head : Option Pattern
  atoms : List Occurrence
  tests : List Test
  deriving DecidableEq

namespace Clause

def positive (c : Clause) : List Pattern := (c.atoms.filter (!·.negated)).map Occurrence.atom

def negative (c : Clause) : List Pattern := (c.atoms.filter (·.negated)).map Occurrence.atom

def addElement (c : Clause) : BodyElement → Option Clause
  | .atom negated l =>
    (Pattern.ofLiteral? l).map fun p => { c with atoms := c.atoms ++ [⟨negated, p⟩] }
  | .comparison r left right => do
    let left ← Arg.ofText? left
    let right ← Arg.ofText? right
    return { c with tests := c.tests ++ [⟨r, left, right⟩] }

def addElements (c : Clause) : List BodyElement → Option Clause
  | [] => some c
  | e :: es => (c.addElement e).bind fun c => c.addElements es

/-- The clauses for a rule; only a fact with computed arguments can have another number of them
than one. Signs and computed arguments are read in facts only: in other rules, where the solver
knows them too, they are left out. -/
def ofRule? (r : Rule) : Option (List Clause) :=
  match r.head, r.body with
  | none, [] => none
  | none, body => (addElements ⟨none, [], []⟩ body).map fun c => [c]
  | some l, [] => (Pattern.ofFact? l).map fun ps => ps.map fun p => ⟨some p, [], []⟩
  | some l, body =>
    (Pattern.ofLiteral? l).bind fun p => (addElements ⟨some p, [], []⟩ body).map fun c => [c]

def ranges (c : Clause) : List (String × List Int) := rangesOf c.tests

def boundVars (c : Clause) : List String :=
  c.positive.flatMap Pattern.vars ++ c.ranges.map Prod.fst

def binds (c : Clause) : Arg → Bool
  | .value _ => true
  | .var x => c.boundVars.contains x
  | .anonymous => false

/-- Every variable is bound by a positive atom or by comparisons. An anonymous variable may stand
in a negated atom, but not in the head or in a comparison. -/
def isSafe (c : Clause) : Bool :=
  c.head.all (fun p => p.args.all c.binds) &&
    c.negative.all (fun p => p.vars.all c.boundVars.contains) &&
    c.tests.all (fun t => c.binds t.left && c.binds t.right)

def terms (c : Clause) : List Term :=
  c.head.toList.flatMap Pattern.terms ++ c.atoms.flatMap (·.atom.terms)

section Order

def closing (bound : List String) : List String → List Occurrence → List Occurrence
  | [], _ => []
  | x :: xs, atoms =>
    if bound.contains x then closing bound xs atoms
    else
      (atoms.filter fun o => o.atom.vars.contains x && o.atom.vars.all (x :: bound).contains) ++
        closing (x :: bound) xs atoms

/-- The atoms in the order in which the grounder takes them: the last one first, but a negated
atom comes after those that bind its variables. -/
def arranged (c : Clause) : Clause :=
  let (free, waiting) := c.atoms.partition fun o => !o.negated || o.atom.vars.isEmpty
  let free := free.reverse
  let vars := c.ranges.map Prod.fst ++
    (free.filter (!·.negated)).flatMap fun o => o.atom.vars
  { c with atoms := free ++ closing [] vars waiting }

end Order

end Clause

end AnswerSetLearning.Solver
