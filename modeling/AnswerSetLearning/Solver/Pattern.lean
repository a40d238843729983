import AnswerSetLearning.Rule
import AnswerSetLearning.Solver.Term

namespace AnswerSetLearning.Solver

inductive Arg
  | value (t : Term)
  | var (name : String)
  | anonymous
  deriving DecidableEq

def digit? (base : Nat) (c : Char) : Option Nat :=
  let value :=
    if isAsciiDigit c then c.toNat - '0'.toNat
    else if 'a' ≤ c && c ≤ 'f' then c.toNat - 'a'.toNat + 10
    else if 'A' ≤ c && c ≤ 'F' then c.toNat - 'A'.toNat + 10
    else base
  if value < base then some value else none

def digitsOf? (base : Nat) (cs : List Char) : Option Int :=
  if cs.isEmpty then none
  else (cs.foldlM (fun n c => (digit? base c).map (base * n + ·)) 0).map fun n => inRange n

/-- The value of a numeral, which is decimal unless its first two characters say otherwise. A
decimal numeral has a leading zero only if it is `0`. -/
def numeral? : List Char → Option Int
  | ['0'] => some 0
  | '0' :: 'x' :: cs => digitsOf? 16 cs
  | '0' :: 'o' :: cs => digitsOf? 8 cs
  | '0' :: 'b' :: cs => digitsOf? 2 cs
  | '0' :: _ => none
  | cs => digitsOf? 10 cs

/-- Whether the characters are underscores and quotes, a first letter of the given kind and name
characters. -/
def isNameOf (first : Char → Bool) (cs : List Char) : Bool :=
  match cs.dropWhile fun c => c == '_' || c == '\'' with
  | c :: rest => first c && rest.all isNameChar
  | [] => false

def isConstantName (s : String) : Bool := isNameOf isLowerLetter s.toList && s != "not"

namespace Arg

def ofWord? (cs : List Char) : Option Arg :=
  if cs = ['_'] then some anonymous
  else if isNameOf isUpperLetter cs then some (var (.ofList cs))
  else if isConstantName (.ofList cs) then some (value (.constant (.ofList cs)))
  else (numeral? cs).map fun n => value (.number n)

def ofText? (s : String) : Option Arg := ofWord? s.toList

def var? : Arg → Option String
  | var x => some x
  | _ => none

def value? : Arg → Option Term
  | value t => some t
  | _ => none

end Arg

/-- A predicate with its number of arguments; predicates of different arity are different. -/
structure Signature where
  name : String
  arity : Nat
  deriving DecidableEq

structure Pattern where
  predicate : String
  args : List Arg
  deriving DecidableEq

namespace Pattern

def signature (p : Pattern) : Signature := ⟨p.predicate, p.args.length⟩

def vars (p : Pattern) : List String := p.args.filterMap Arg.var?

def terms (p : Pattern) : List Term := p.args.filterMap Arg.value?

/-- Empty parentheses are no argument. -/
def ofLiteral? (l : Literal) : Option Pattern :=
  if !isConstantName l.predicate then none
  else if l.args = [""] then some ⟨l.predicate, []⟩
  else (l.args.mapM Arg.ofText?).map fun args => ⟨l.predicate, args⟩

end Pattern

structure Test where
  relation : Relation
  left : Arg
  right : Arg
  deriving DecidableEq

def unsignedName (s : String) : String :=
  match s.toList with
  | '-' :: cs => .ofList cs
  | _ => s

/-- The names of predicates; one with a minus sign is the opposite of the one without. -/
def isPredicateName (s : String) : Bool := isConstantName (unsignedName s)

structure GroundAtom where
  predicate : String
  args : List Term
  deriving DecidableEq

namespace GroundAtom

/-- The literal of an atom does not show whether its predicate is an opposite. -/
def literal (a : GroundAtom) : Literal := ⟨unsignedName a.predicate, a.args.map Term.text⟩

def opposite (a : GroundAtom) : GroundAtom := { a with predicate := "-" ++ a.predicate }

end GroundAtom

end AnswerSetLearning.Solver
