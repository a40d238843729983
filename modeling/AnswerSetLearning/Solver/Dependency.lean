import AnswerSetLearning.Solver.Clause
import AnswerSetLearning.Solver.Unification

namespace AnswerSetLearning.Solver

structure Walk (α : Type u) where
  found : List α
  left : List α

namespace Walk

def empty : Walk α := ⟨[], []⟩

/-- Walks on from `x`, unless it has been found before. Every node on the way is a new one, so
the number of nodes is fuel enough. -/
def visit [DecidableEq α] (next : α → List α) : (fuel : Nat) → Walk α → α → Walk α
  | 0, w, _ => w
  | fuel + 1, w, x =>
    if x ∈ w.found then w
    else
      let w := (next x).foldl (visit next fuel) { w with found := w.found ++ [x] }
      { w with left := w.left ++ [x] }

end Walk

def reachable [DecidableEq α] (next : α → List α) (size : Nat) (x : α) : List α :=
  (Walk.visit next size .empty x).found

/-- The strongly connected components of the graph on the given nodes, those first to which the
others lead, each with its nodes in the order of a walk that starts from the nodes in turn. The
walk leaves a component when it leaves the node at which it entered. -/
def components [DecidableEq α] (next : α → List α) (nodes : List α) : List (List α) :=
  let next (x : α) : List α := (next x).filter (· ∈ nodes)
  let walk := nodes.foldl (Walk.visit next nodes.length) .empty
  let reach := nodes.map fun x => (x, reachable next nodes.length x)
  let leads (x y : α) : Bool := (reach.lookup x).any (y ∈ ·)
  walk.left.filterMap fun x =>
    let component := walk.found.filter fun y => leads x y && leads y x
    if component.head? = some x then some component else none

structure Statement where
  place : Nat
  clause : Clause
  deriving DecidableEq

namespace Statement

def ofClauses (clauses : List Clause) : List Statement :=
  clauses.zipIdx.map fun (c, i) => ⟨i, c⟩

def defines (s : Statement) (p : Pattern) : Bool := s.clause.head.any (·.unifies p)

def edges (atoms : Clause → List Pattern) (statements : List Statement) :
    List (Statement × List Statement) :=
  statements.map fun s =>
    (s, (atoms s.clause).flatMap fun p => statements.filter (·.defines p))

/-- The blocks of statements in the order in which they are grounded. The walk starts from the
last statement of the program, and the statements of a block stand in the order opposite to the
walk. -/
def blocks (statements : List Statement) : List (List Statement) :=
  let all := edges (fun c => c.atoms.map Occurrence.atom) statements
  let positive := edges Clause.positive statements
  let whole := components (fun s => (all.lookup s).getD []) statements.reverse
  (whole.flatMap (components fun s => (positive.lookup s).getD [])).map List.reverse

end Statement

end AnswerSetLearning.Solver
