import AnswerSetLearning.Text.Quoted

namespace AnswerSetLearning

inductive PathRoot
  | relative
  | slash
  | doubleSlash
  deriving DecidableEq

structure Path where
  root : PathRoot
  parts : List String
  deriving DecidableEq

namespace Path

def rootOf : List Char → PathRoot
  | ['/', '/'] => .doubleSlash
  | '/' :: '/' :: c :: _ => if c = '/' then .slash else .doubleSlash
  | '/' :: _ => .slash
  | _ => .relative

def ofText (s : String) : Path where
  root := rootOf s.toList
  parts := ((splitAtEach '/' s.toList).filter fun p => p ≠ [] ∧ p ≠ ['.']).map .ofList

def rootText : PathRoot → String
  | .relative => ""
  | .slash => "/"
  | .doubleSlash => "//"

def text (p : Path) : String :=
  if p.root = .relative && p.parts.isEmpty then "." else rootText p.root ++ joinWith "/" p.parts

def ancestors (p : Path) : List Path :=
  (List.range (p.parts.length - 1)).map fun i => { p with parts := p.parts.take (i + 1) }

/-- A path that is given as a text; an empty text gives none. -/
def ofText? (s : String) : Option Path := if s = "" then none else some (ofText s)

end Path

end AnswerSetLearning
