import AnswerSetLearning.Solver.Pattern

namespace AnswerSetLearning.Solver

namespace Arg

def subst (x : String) (b : Arg) : Arg → Arg
  | var y => if y = x then b else var y
  | a => a

/-- Another name for a variable. No rule has a variable with a slash in its name. -/
def primed : Arg → Arg
  | var x => var ("/" ++ x)
  | a => a

end Arg

/-- Whether values for the variables make the two sides of each pair equal, after `θ` has
eliminated some of the variables. An anonymous variable occurs once and takes any value. -/
def solvable (θ : Arg → Arg) : List (Arg × Arg) → Bool
  | [] => true
  | (a, b) :: rest =>
    match θ a, θ b with
    | .anonymous, _ | _, .anonymous => solvable θ rest
    | .var x, c | c, .var x => solvable (fun d => Arg.subst x c (θ d)) rest
    | .value s, .value t => s = t && solvable θ rest

namespace Pattern

/-- Whether the atoms have a common instance; a variable of one is none of the other's, even
under the same name. -/
def unifies (p q : Pattern) : Bool :=
  p.signature = q.signature && solvable id (p.args.zip (q.args.map Arg.primed))

end Pattern

end AnswerSetLearning.Solver
