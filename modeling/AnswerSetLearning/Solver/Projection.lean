import AnswerSetLearning.Solver.Clause

/-!
# Projections

An atom with anonymous variables only says that there is some atom like it. Unless it is the
whole body, it is replaced by its projection, which keeps the arguments that are variables. The
constants and the anonymous variables make up the name of the projection. A clause of its own
says when the projection holds.
-/

namespace AnswerSetLearning.Solver

namespace Arg

def generic (position : Nat) : Arg → Arg
  | var _ => var (intText position)
  | a => a

/-- What the name of a projection tells of an argument. -/
def shape : Arg → String
  | value t => t.text
  | var _ => "/"
  | anonymous => "_"

end Arg

namespace Pattern

def isPartial (p : Pattern) : Bool := p.args.contains .anonymous

/-- No other predicate has a name with a slash. -/
def projected (p : Pattern) : Pattern :=
  ⟨p.predicate ++ "/" ++ joinWith "," (p.args.map Arg.shape), p.args.filter (·.var?.isSome)⟩

def generic (p : Pattern) : Pattern :=
  { p with args := p.args.zipIdx.map fun (a, i) => a.generic i }

def projection (p : Pattern) : Clause := ⟨some p.generic.projected, [⟨false, p.generic⟩], []⟩

end Pattern

namespace Clause

/-- Whether an atom of the body is to be replaced by its projection. A body that is one positive
atom is left as it is. -/
def projects (c : Clause) (o : Occurrence) : Bool :=
  o.atom.isPartial && (o.negated || 1 < c.atoms.length)

def projected (c : Clause) : Clause :=
  { c with
    atoms := c.atoms.map fun o =>
      if c.projects o then { o with atom := o.atom.projected } else o }

def projections (c : Clause) : List Clause :=
  (c.atoms.filter c.projects).map (·.atom.projection)

end Clause

/-- The clauses with all projections replaced, followed by the clauses for these. -/
def withProjections (clauses : List Clause) : List Clause :=
  clauses.map Clause.projected ++ (clauses.flatMap Clause.projections).eraseDups

end AnswerSetLearning.Solver
