import AnswerSetLearning.Compatibility
import AnswerSetLearning.Induction.Synthesis
import AnswerSetLearning.Induction.Universe

namespace AnswerSetLearning

open Solver (Engine QueryFault)

inductive BuildFault
  | query (e : QueryFault)
  | conflict (c : Conflict)
  deriving DecidableEq

def BuildFault.ofCheck : CheckFault QueryFault → BuildFault
  | .conflict c => conflict c
  | .solver e => query e

/-- What came of a task: the size of the universe, when there is one, and the result. -/
structure Built where
  stats : Option UniverseStats
  result : Except BuildFault LearningTask

namespace Solver.Engine

variable (E : Engine)

def checkWithSolver (t : Task) : Except BuildFault Registry :=
  match checkCompatibility E.computeModels t t.registry with
  | (.ok (), registry) => .ok registry
  | (.error e, _) => .error (.ofCheck e)

def buildTask (t : Task) : Built :=
  match E.computeUniverse t with
  | (.error e, _) => ⟨none, .error (.query e)⟩
  | (.ok univ, registry) =>
    let t := { t with registry }
    let result :=
      match E.checkWithSolver t with
      | .error e => .error e
      | .ok registry =>
        match synthesize { t with registry } univ with
        | .ok task => .ok task
        | .error e => .error (.query (.invalid e))
    ⟨some (universeStats univ registry), result⟩

end Solver.Engine

abbrev checkWithSolver := Engine.builtIn.checkWithSolver

abbrev buildTask := Engine.builtIn.buildTask

end AnswerSetLearning
