import AnswerSetLearning.Solver.Query

namespace AnswerSetLearning

open Solver (Engine QueryFault)

def Task.scenarios (t : Task) : List (LitSet × LitSet) :=
  t.examples.flatMap fun e => e.outputs.map (e.input, ·)

namespace Solver.Engine

variable (E : Engine)

/-- The numbers of the facts of each scenario; new literals are registered. -/
def derivedFrom (rules : List Rule) :
    List (LitSet × LitSet) → Registry → Except QueryFault (List Lit) × Registry
  | [], registry => (.ok [], registry)
  | (input, output) :: rest, registry =>
    match E.groundFacts rules input output registry with
    | .error e => (.error e, registry)
    | .ok literals =>
      let (lits, registry) := registry.registerAll literals
      match derivedFrom rules rest registry with
      | (.ok more, registry) => (.ok (lits ++ more), registry)
      | (.error e, registry) => (.error e, registry)

def computeUniverse (t : Task) : Except QueryFault LitSet × Registry :=
  match E.derivedFrom t.background t.scenarios t.registry with
  | (.ok lits, registry) => (.ok (.ofList lits), registry)
  | (.error e, registry) => (.error e, registry)

end Solver.Engine

abbrev derivedFrom := Engine.builtIn.derivedFrom

abbrev computeUniverse := Engine.builtIn.computeUniverse

structure UniverseStats where
  size : Int
  predicates : Int
  deriving DecidableEq

def universeStats (univ : LitSet) (registry : Registry) : UniverseStats :=
  let literals := registry.getMany univ.items
  ⟨literals.length, (SortedSet.firstOccurrences (literals.map Literal.predicate)).length⟩

end AnswerSetLearning
