import AnswerSetLearning.Literal

namespace AnswerSetLearning

structure Registry where
  literals : List Literal
  deriving DecidableEq

structure InvalidLiteral where
  lit : Lit
  deriving DecidableEq

def InvalidLiteral.message (e : InvalidLiteral) : String :=
  "Nieprawidłowy literał: " ++ intText e.lit

namespace Registry

def empty : Registry := ⟨[]⟩

def size (r : Registry) : Nat := r.literals.length

def lookup (r : Registry) (l : Literal) : Option Lit :=
  (r.literals.idxOf? l).map fun i => (i : Int) + 1

def contains (r : Registry) (l : Literal) : Bool := (r.lookup l).isSome

def register (r : Registry) (l : Literal) : Lit × Registry :=
  match r.lookup l with
  | some lit => (lit, r)
  | none => ((r.size : Int) + 1, ⟨r.literals ++ [l]⟩)

def registerAll (r : Registry) : List Literal → List Lit × Registry
  | [] => ([], r)
  | l :: ls =>
    let (lit, r) := r.register l
    let (lits, r) := r.registerAll ls
    (lit :: lits, r)

def registerSet (r : Registry) (ls : List Literal) : LitSet × Registry :=
  let (lits, r) := r.registerAll ls
  (.ofList lits, r)

def registerSets (r : Registry) : List (List Literal) → List LitSet × Registry
  | [] => ([], r)
  | ls :: rest =>
    let (set, r) := r.registerSet ls
    let (sets, r) := r.registerSets rest
    (set :: sets, r)

def get? (r : Registry) (lit : Lit) : Option Literal :=
  if 1 ≤ lit then r.literals[(lit - 1).toNat]? else none

def get (r : Registry) (lit : Lit) : Except InvalidLiteral Literal :=
  match r.get? lit with
  | some l => .ok l
  | none => .error ⟨lit⟩

/-- The literals of the numbers; a number without a literal is passed over. -/
def getMany (r : Registry) (lits : List Lit) : List Literal := lits.filterMap r.get?

/-- The literals of the numbers, or the first number without a literal. -/
def resolve (r : Registry) (lits : List Lit) : Except InvalidLiteral (List Literal) :=
  lits.mapM r.get

end Registry

end AnswerSetLearning
