import AnswerSetLearning.Solver.Clause

/-!
# Programs

The clauses of a list of rules. Every rule that is no clause, or is not safe, gives a message,
and the solver gives up when there are more than twenty of them.
-/

namespace AnswerSetLearning.Solver

inductive Fault
  | syntaxError
  | unsafeVariable
  | tooManyMessages
  deriving DecidableEq

def Fault.message : Fault → String
  | .syntaxError => "Błąd clingo: parsing failed"
  | .unsafeVariable => "Błąd clingo: grounding stopped because of errors"
  | .tooManyMessages => "Błąd clingo: too many messages."

def messageLimit : Nat := 20

def failsEarly (r : Rule) : Bool :=
  r.head.any fun l => !isPredicateName l.predicate && (l.predicate ≠ "not" || l.args.isEmpty)

/-- How many messages the rules without a clause give. An early error right after another one
is passed over. -/
def syntaxMessages : (failing : Bool) → List Rule → Nat
  | _, [] => 0
  | failing, r :: rules =>
    match Clause.ofRule? r with
    | some _ => syntaxMessages false rules
    | none => syntaxMessages true rules + if failing && failsEarly r then 0 else 1

def faultOf (f : Fault) (messages : Nat) : Fault :=
  if messageLimit < messages then .tooManyMessages else f

/-- The clauses of a program; a syntax error anywhere is noticed before an unsafe variable. -/
def compile (rules : List Rule) : Except Fault (List Clause) :=
  match rules.mapM Clause.ofRule? with
  | none => .error (faultOf .syntaxError (syntaxMessages false rules))
  | some parts =>
    let clauses := parts.flatten
    if clauses.all Clause.isSafe then .ok clauses
    else .error (faultOf .unsafeVariable (clauses.countP (!·.isSafe)))

end AnswerSetLearning.Solver
