import AnswerSetLearning.Solver.Query

namespace AnswerSetLearning

open Solver (ModelQuery)

inductive Condition
  | i
  | ii
  | iii
  deriving DecidableEq

def Condition.text : Condition → String
  | i => "i"
  | ii => "ii"
  | iii => "iii"

/-- The first condition that is violated, and the positions of the two examples, from 0 as they
were given. -/
structure Conflict where
  condition : Condition
  first : Int
  second : Int
  deriving DecidableEq

def Conflict.message (c : Conflict) : String :=
  "Niezgodność dla warunku (" ++ c.condition.text ++ ") między przykładami " ++
    intText (c.first + 1) ++ " i " ++ intText (c.second + 1)

inductive CheckFault (ε : Type)
  | conflict (c : Conflict)
  | solver (e : ε)
  deriving DecidableEq

def distinctOutputs (e₁ e₂ : Example) : List LitSet :=
  (SortedSet.firstOccurrences e₁.outputs).filter (· ∉ e₂.outputs)

/-- Whether some output of the second example contains the input of the first and is strictly
contained in `s₁` or strictly contains it. -/
def violatesInclusion (e₁ e₂ : Example) (s₁ : LitSet) : Bool :=
  e₂.outputs.any fun s₂ =>
    e₁.input.isSubset s₂ && (s₁.isSubset s₂ || s₂.isSubset s₁) && s₁.size != s₂.size

section Check

variable {σ ε : Type} (ask : ModelQuery → σ → Except ε (List LitSet) × σ)

/-- Checks one output of the first example. The first model that is found stands for the least
one; all models are asked for only when it does not settle the matter. -/
def checkOutput (definite : List Rule) (e₁ e₂ : Example) (conflict : Condition → Conflict)
    (s₁ : LitSet) (state : σ) : Except (CheckFault ε) Unit × σ :=
  if !e₂.input.isSubset s₁ then (.ok (), state)
  else if violatesInclusion e₁ e₂ s₁ then (.error (.conflict (conflict .i)), state)
  else
    match ask ⟨definite, e₂.input, 1⟩ state with
    | (.error e, state) => (.error (.solver e), state)
    | (.ok models, state) =>
      if models.head?.any e₁.input.isSubset then (.error (.conflict (conflict .ii)), state)
      else
        match ask ⟨definite, e₂.input, 0⟩ state with
        | (.error e, state) => (.error (.solver e), state)
        | (.ok models, state) =>
          if models.any e₁.input.isSubset then (.error (.conflict (conflict .iii)), state)
          else (.ok (), state)

def checkEach (check : α → σ → Except (CheckFault ε) Unit × σ) :
    List α → σ → Except (CheckFault ε) Unit × σ
  | [], state => (.ok (), state)
  | a :: as, state =>
    match check a state with
    | (.ok (), state) => checkEach check as state
    | (.error e, state) => (.error e, state)

def checkPair (definite : List Rule) (p : (Example × Int) × (Example × Int)) (state : σ) :
    Except (CheckFault ε) Unit × σ :=
  let ((e₁, first), (e₂, second)) := p
  checkEach (checkOutput ask definite e₁ e₂ fun c => ⟨c, first, second⟩)
    (distinctOutputs e₁ e₂) state

/-- The pairs of elements at different positions, in lexicographic order of the positions. -/
def pairs : List α → List (α × α)
  | [] => []
  | a :: as => as.map (a, ·) ++ pairs as

def checkCompatibility (t : Task) (state : σ) : Except (CheckFault ε) Unit × σ :=
  let examples := t.examples.zipIdx.map fun (e, i) => (e, Int.ofNat i)
  checkEach (checkPair ask t.definiteRules) (pairs examples) state

/-- The example at a position; a negative position counts from the end. -/
def exampleAt? (t : Task) (position : Int) : Option Example :=
  let i := if position < 0 then position + t.examples.length else position
  if i < 0 then none else t.examples[i.toNat]?

end Check

end AnswerSetLearning
