import AnswerSetLearning.Solver.Grounding
import AnswerSetLearning.Solver.Program
import AnswerSetLearning.Solver.StableModels
import AnswerSetLearning.Task

namespace AnswerSetLearning.Solver

inductive QueryFault
  | invalid (e : InvalidLiteral)
  | solver (f : Fault)
  | noModel
  deriving DecidableEq

def factRule (l : Literal) : Rule := ⟨some l, []⟩

def program (rules : List Rule) (facts : List LitSet) (registry : Registry) :
    Except InvalidLiteral (List Rule) :=
  (registry.resolve (facts.flatMap SortedSet.items)).map fun ls => rules ++ ls.map factRule

/-- The text of a program, one rule per line; an empty program is one empty line. -/
def programText (rules : List Rule) : String := joinWith "\n" (rules.map Rule.text) ++ "\n"

/-- What is asked: at most `limit` stable models of the rules with the facts, all for 0. -/
structure ModelQuery where
  rules : List Rule
  facts : LitSet
  limit : Nat
  deriving DecidableEq

/-- What a solver makes of a program. -/
structure Engine where
  facts : List Rule → Except Fault (List Literal)
  models : (limit : Nat) → List Rule → Except Fault (List (List Literal))

namespace Engine

variable (E : Engine)

/-- The atoms that hold in every model because grounding already derives them. -/
def groundFacts (rules : List Rule) (a b : LitSet) (registry : Registry) :
    Except QueryFault (List Literal) :=
  match program rules [a, b] registry with
  | .error e => .error (.invalid e)
  | .ok rules => (E.facts rules).mapError .solver

/-- The stable models that are asked for; their atoms are registered. -/
def computeModels (q : ModelQuery) (registry : Registry) :
    Except QueryFault (List LitSet) × Registry :=
  match program q.rules [q.facts] registry with
  | .error e => (.error (.invalid e), registry)
  | .ok rules =>
    match E.models q.limit rules with
    | .error f => (.error (.solver f), registry)
    | .ok [] => (.error .noModel, registry)
    | .ok models =>
      let (sets, registry) := registry.registerSets models
      (.ok sets, registry)

def builtIn : Engine where
  facts rules := (compile rules).map fun clauses => (ground clauses).facts.map GroundAtom.literal
  models limit rules :=
    (compile rules).map fun clauses => (stableModels limit clauses).map (·.map GroundAtom.literal)

end Engine

abbrev groundFacts := Engine.builtIn.groundFacts

abbrev computeModels := Engine.builtIn.computeModels

def compileProgram (rules : List Rule) (facts : List LitSet) (registry : Registry) :
    Except QueryFault (List Clause) :=
  match program rules facts registry with
  | .error e => .error (.invalid e)
  | .ok rules =>
    match compile rules with
    | .error f => .error (.solver f)
    | .ok clauses => .ok clauses

end AnswerSetLearning.Solver
