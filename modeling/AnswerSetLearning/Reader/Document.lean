import AnswerSetLearning.Task

namespace AnswerSetLearning

structure Scenario where
  facts : List Literal
  answers : List (List Literal)
  deriving DecidableEq

structure Document where
  rules : List Rule
  scenarios : List Scenario
  deriving DecidableEq

namespace Document

def empty : Document := ⟨[], []⟩

def addRule (d : Document) (r : Rule) : Document := { d with rules := d.rules ++ [r] }

def addScenario (d : Document) (s : Scenario) : Document :=
  { d with scenarios := d.scenarios ++ [s] }

end Document

namespace Registry

/-- The literals of the answer sets are registered before those of the facts. -/
def registerScenario (r : Registry) (s : Scenario) : Example × Registry :=
  let (outputs, r) := r.registerSets s.answers
  let (input, r) := r.registerSet s.facts
  (⟨input, outputs⟩, r)

def registerScenarios (r : Registry) : List Scenario → List Example × Registry
  | [] => ([], r)
  | s :: rest =>
    let (e, r) := r.registerScenario s
    let (es, r) := r.registerScenarios rest
    (e :: es, r)

end Registry

def Document.task (d : Document) : Task :=
  let (examples, registry) := Registry.empty.registerScenarios d.scenarios
  ⟨registry, d.rules, examples⟩

end AnswerSetLearning
