import AnswerSetLearning.Solver.Closure
import AnswerSetLearning.Solver.Instance

namespace AnswerSetLearning.Solver

/-- The least model of the instances whose negated atoms are not among the assumed ones. The
more is assumed, the less follows. -/
def leastModel (insts : List Instance) (assumed : List GroundAtom) : List GroundAtom :=
  let reduct := insts.filter fun i => i.unblocked assumed
  grow (consequences reduct) reduct.length []

def isConsistent (model : List GroundAtom) : Bool := model.all (·.opposite ∉ model)

/-- Whether a constraint is violated in all models that have the atoms `atLeast` and no others
than `atMost`. -/
def violates (insts : List Instance) (atLeast atMost : List GroundAtom) : Bool :=
  insts.any fun i => i.head.isNone && i.supported atLeast && i.unblocked atMost

def negatedAtoms (insts : List Instance) (atoms : List GroundAtom) : List GroundAtom :=
  atoms.filter fun a => insts.any fun i => i.negative.any fun n => n.forbids a

/-- Whether a stable model may have all chosen and no rejected atoms. Only what follows when no
undecided atom is assumed holds in such a model, and all that follows when those are assumed which
can hold. Once nothing is undecided the answer is definite. -/
def isOpen (insts : List Instance) (chosen rejected undecided : List GroundAtom) : Bool :=
  let atMost := leastModel insts chosen
  let atLeast := leastModel insts (chosen ++ undecided.filter (· ∈ atMost))
  chosen.all (· ∈ atMost) && rejected.all (· ∉ atLeast) &&
    !violates insts atLeast atMost && isConsistent atLeast

def search (insts : List Instance) : (room : Nat) → (chosen rejected undecided : List GroundAtom) →
    List (List GroundAtom)
  | 0, _, _, _ => []
  | _ + 1, chosen, rejected, [] =>
    if isOpen insts chosen rejected [] then [leastModel insts chosen] else []
  | room + 1, chosen, rejected, a :: rest =>
    if isOpen insts chosen rejected (a :: rest) then
      let found := search insts (room + 1) (chosen ++ [a]) rejected rest
      found ++ search insts (room + 1 - found.length) chosen (rejected ++ [a]) rest
    else []

def derivable (clauses : List Clause) : List GroundAtom :=
  grow (fun atoms => (instances atoms clauses).filterMap Instance.head) (headCount clauses) []

/-- At most `limit` stable models, or all of them for 0. Each choice leads to one model at
most, so there is room for all when there is room for all choices. -/
def stableModels (limit : Nat) (clauses : List Clause) : List (List GroundAtom) :=
  let atoms := derivable clauses
  let insts := instances atoms clauses
  let undecided := negatedAtoms insts atoms
  search insts (if limit = 0 then Nat.pow 2 undecided.length else limit) [] [] undecided

end AnswerSetLearning.Solver
