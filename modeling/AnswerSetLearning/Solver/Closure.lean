namespace AnswerSetLearning.Solver

def fresh [DecidableEq α] (known : List α) : List α → List α
  | [] => []
  | a :: found =>
    let rest := fresh known found
    if a ∈ known ∨ a ∈ rest then rest else a :: rest

/-- Adds what `step` finds in the list until nothing is new. Every round but the last adds an
element, so a bound on the number of elements that the steps can find is fuel enough. -/
def grow [DecidableEq α] (step : List α → List α) : (fuel : Nat) → List α → List α
  | 0, known => known
  | fuel + 1, known =>
    match fresh known (step known) with
    | [] => known
    | new => grow step fuel (known ++ new)

end AnswerSetLearning.Solver
