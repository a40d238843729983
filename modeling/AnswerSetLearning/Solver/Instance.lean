import AnswerSetLearning.Solver.Clause

namespace AnswerSetLearning.Solver

abbrev Subst := List (String × Term)

namespace Arg

def match? (σ : Subst) : Arg → Term → Option Subst
  | value s, t => if s = t then some σ else none
  | var x, t =>
    match σ.lookup x with
    | some s => if s = t then some σ else none
    | none => some ((x, t) :: σ)
  | anonymous, _ => some σ

def matchAll? (σ : Subst) : List Arg → List Term → Option Subst
  | [], [] => some σ
  | a :: as, t :: ts => (a.match? σ t).bind fun σ => matchAll? σ as ts
  | _, _ => none

def eval? (σ : Subst) : Arg → Option Term
  | value t => some t
  | var x => σ.lookup x
  | anonymous => none

end Arg

def Pattern.match? (σ : Subst) (p : Pattern) (a : GroundAtom) : Option Subst :=
  if p.predicate = a.predicate then Arg.matchAll? σ p.args a.args else none

def Pattern.eval? (σ : Subst) (p : Pattern) : Option GroundAtom :=
  (p.args.mapM (Arg.eval? σ)).map fun args => ⟨p.predicate, args⟩

/-- What must not hold: an atom, or every atom that agrees with it where it has arguments. -/
structure Absence where
  predicate : String
  args : List (Option Term)
  deriving DecidableEq

namespace Absence

def agree : List (Option Term) → List Term → Bool
  | [], [] => true
  | none :: ps, _ :: ts => agree ps ts
  | some s :: ps, t :: ts => s = t && agree ps ts
  | _, _ => false

def forbids (n : Absence) (a : GroundAtom) : Bool :=
  n.predicate = a.predicate && agree n.args a.args

def holds (n : Absence) (atoms : List GroundAtom) : Bool := !atoms.any n.forbids

def ofPattern (σ : Subst) (p : Pattern) : Absence := ⟨p.predicate, p.args.map (Arg.eval? σ)⟩

end Absence

def Relation.holds (s t : Term) : Relation → Bool
  | .unequal => s ≠ t
  | .greater => t < s
  | .less => s < t

def Test.holds (σ : Subst) (test : Test) : Bool :=
  match test.left.eval? σ, test.right.eval? σ with
  | some s, some t => Relation.holds s t test.relation
  | _, _ => false

/-- A ground rule; without a head it is a constraint. -/
structure Instance where
  head : Option GroundAtom
  positive : List GroundAtom
  negative : List Absence
  deriving DecidableEq

namespace Instance

def supported (i : Instance) (atoms : List GroundAtom) : Bool :=
  i.positive.all fun a => a ∈ atoms

def unblocked (i : Instance) (atoms : List GroundAtom) : Bool :=
  i.negative.all fun n => n.holds atoms

end Instance

/-- The ways to match each pattern with one of its candidates, in order, with the atoms taken. -/
def joins : Subst → List (Pattern × List GroundAtom) → List (Subst × List GroundAtom)
  | σ, [] => [(σ, [])]
  | σ, (p, candidates) :: rest => candidates.flatMap fun a =>
    match p.match? σ a with
    | some σ => (joins σ rest).map fun (τ, taken) => (τ, a :: taken)
    | none => []

def choices : Subst → List (String × List Int) → List Subst
  | σ, [] => [σ]
  | σ, (x, ns) :: ranges =>
    match σ.lookup x with
    | some _ => choices σ ranges
    | none => ns.flatMap fun n => choices ((x, .number n) :: σ) ranges

namespace Clause

def instance? (c : Clause) (σ : Subst) (taken : List GroundAtom) : Option Instance :=
  if c.tests.all (Test.holds σ) then
    let negative := c.negative.map (Absence.ofPattern σ)
    match c.head with
    | none => some ⟨none, taken, negative⟩
    | some p => (p.eval? σ).map fun a => ⟨some a, taken, negative⟩
  else none

def instancesFrom (candidates : List (List GroundAtom)) (c : Clause) : List Instance :=
  let ranges := c.ranges
  (joins [] (c.positive.zip candidates)).flatMap fun (σ, taken) =>
    (choices σ ranges).filterMap fun σ => c.instance? σ taken

def instances (atoms : List GroundAtom) (c : Clause) : List Instance :=
  c.instancesFrom (c.positive.map fun _ => atoms)

end Clause

def instances (atoms : List GroundAtom) (clauses : List Clause) : List Instance :=
  clauses.flatMap (Clause.instances atoms)

def consequences (insts : List Instance) (atoms : List GroundAtom) : List GroundAtom :=
  insts.filterMap fun i => if i.supported atoms then i.head else none

def headCount (clauses : List Clause) : Nat :=
  let numbers := clauses.flatMap fun c => c.ranges.flatMap Prod.snd
  let values := (clauses.flatMap Clause.terms).length + numbers.length
  clauses.foldr (fun c n =>
    match c.head with
    | some p => values.pow p.args.length + n
    | none => n) 0

end AnswerSetLearning.Solver
