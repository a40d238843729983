import AnswerSetLearning.Literal

namespace AnswerSetLearning

inductive Relation
  | unequal
  | greater
  | less
  deriving DecidableEq

namespace Relation

def text : Relation → String
  | unequal => "!="
  | greater => ">"
  | less => "<"

def ofText? : String → Option Relation
  | "!=" => some unequal
  | ">" => some greater
  | "<" => some less
  | _ => none

end Relation

inductive BodyElement
  | atom (negated : Bool) (literal : Literal)
  | comparison (relation : Relation) (left right : String)
  deriving DecidableEq

namespace BodyElement

def text : BodyElement → String
  | atom true l => "not " ++ l.text
  | atom false l => l.text
  | comparison r left right => left ++ " " ++ r.text ++ " " ++ right

def isNegated : BodyElement → Bool
  | atom negated _ => negated
  | comparison .. => false

end BodyElement

/-- A rule; without a head it is a constraint. -/
structure Rule where
  head : Option Literal
  body : List BodyElement
  deriving DecidableEq

namespace Rule

def isFact (r : Rule) : Bool := r.head.isSome && r.body.isEmpty

def negatedAtoms (r : Rule) : List BodyElement := r.body.filter BodyElement.isNegated

def isDefinite (r : Rule) : Bool := r.negatedAtoms.isEmpty

def headText (r : Rule) : String :=
  match r.head with
  | some l => l.text
  | none => ""

def text (r : Rule) : String :=
  match r.body with
  | [] => r.headText ++ "."
  | body =>
    (if r.headText = "" then ":- " else r.headText ++ " :- ") ++
      joinWith ", " (body.map BodyElement.text) ++ "."

end Rule

end AnswerSetLearning
