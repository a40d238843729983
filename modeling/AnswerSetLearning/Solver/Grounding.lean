import AnswerSetLearning.Solver.Dependency
import AnswerSetLearning.Solver.Instance
import AnswerSetLearning.Solver.Projection

/-!
# Grounding

The blocks of a program are grounded one after another. For each block the grounder finds the
possible atoms, and among them the facts: those that hold whatever becomes of the negated atoms
that are left open. Every instance of a clause is looked at once, in the first round in which
its positive atoms are possible. An atom that turns out to be a fact later on makes no facts of
the heads of instances looked at before.
-/

namespace AnswerSetLearning.Solver

structure Grounding where
  possible : List GroundAtom
  facts : List GroundAtom
  deriving DecidableEq

namespace Grounding

def addFact (g : Grounding) (a : GroundAtom) : Grounding :=
  ⟨if a ∈ g.possible then g.possible else g.possible ++ [a],
    if a ∈ g.facts then g.facts else g.facts ++ [a]⟩

def addPossible (g : Grounding) (a : GroundAtom) : Grounding :=
  { g with possible := if a ∈ g.possible then g.possible else g.possible ++ [a] }

/-- Looks at an instance. A fact among its negated atoms removes it. Its head is a fact if the
positive atoms are facts and the negated atoms are out of question. They are settled if no
statement of this or a later block defines them. -/
def fire (settled : Bool) (g : Grounding) (i : Instance) : Grounding :=
  match i.head with
  | none => g
  | some a =>
    if !i.unblocked g.facts then g
    else if settled && i.unblocked g.possible && i.supported g.facts then g.addFact a
    else g.addPossible a

end Grounding

inductive Age
  | old
  | new
  | any
  deriving DecidableEq

namespace Age

/-- The ways to share new and old atoms out among the positive atoms of a body, given which of
them the block defines: there is a first one that takes a new atom. -/
def shares : List Bool → List (List Age)
  | [] => []
  | false :: rest => (shares rest).map (any :: ·)
  | true :: rest => (new :: rest.map fun _ => any) :: (shares rest).map (old :: ·)

def select (old new : List GroundAtom) : Age → List GroundAtom
  | .old => old
  | .new => new
  | .any => old ++ new

end Age

structure Pass where
  statement : Statement
  settled : Bool
  ages : List Age
  deriving DecidableEq

namespace Pass

/-- The passes for a statement, while the `pending` ones are those of its and the later blocks.
A statement that takes none of its atoms from the block needs one pass only. -/
def ofStatement (pending : List Statement) (s : Statement) : List Pass :=
  let isPending (p : Pattern) : Bool := pending.any (·.defines p)
  let recursive := s.clause.positive.map isPending
  let shares := if recursive.any id then Age.shares recursive else [recursive.map fun _ => .any]
  shares.map fun ages => ⟨s, !s.clause.negative.any isPending, ages⟩

def run (old new : List GroundAtom) (g : Grounding) (p : Pass) : Grounding :=
  (p.statement.clause.instancesFrom (p.ages.map (Age.select old new))).foldl (.fire p.settled) g

def awaited? (p : Pass) : Option Pattern :=
  ((p.statement.clause.positive.zip p.ages).find? (·.2 = .new)).map Prod.fst

def follows (p : Pass) (s : Statement) (born : List GroundAtom) : Bool :=
  p.awaited?.any fun q => s.defines q && born.any fun a => (q.match? [] a).isSome

end Pass

/-- Runs rounds of passes; `old` are the possible atoms before the last round. Each round but
the last finds an atom. -/
def rounds (passes : List Pass) :
    (fuel : Nat) → (queue : List Pass) → (old : List GroundAtom) → Grounding → Grounding
  | 0, _, _, g => g
  | fuel + 1, queue, old, g =>
    let next := queue.foldl (Pass.run old (g.possible.drop old.length)) g
    let born := next.possible.drop g.possible.length
    match (queue.flatMap fun p => passes.filter (·.follows p.statement born)).eraseDups with
    | [] => next
    | queue => rounds passes fuel queue g.possible next

def groundBlocks (bound : Nat) : List (List Statement) → Grounding → Grounding
  | [], g => g
  | block :: later, g =>
    let passes := block.flatMap (Pass.ofStatement (block ++ later.flatten))
    groundBlocks bound later (rounds passes (bound + 1) passes [] g)

def Clause.fact? (c : Clause) : Option GroundAtom :=
  if c.atoms.isEmpty && c.tests.isEmpty then c.head.bind (Pattern.eval? []) else none

/-- The facts of the program come first. The atoms of projections are left out in the end. -/
def ground (clauses : List Clause) : Grounding :=
  let given := (clauses.filterMap Clause.fact?).foldl .addFact ⟨[], []⟩
  let rest := (withProjections (clauses.filter (·.fact?.isNone))).map Clause.arranged
  let bound := headCount (withProjections clauses)
  let g := groundBlocks bound (Statement.blocks (Statement.ofClauses rest)) given
  let isShown (a : GroundAtom) : Bool := isPredicateName a.predicate
  ⟨g.possible.filter isShown, g.facts.filter isShown⟩

end AnswerSetLearning.Solver
