import AnswerSetLearning.Template.Expr
import AnswerSetLearning.Template.Lexer

namespace AnswerSetLearning.Template

section Expressions

def stopName : Opening → String
  | .print => "end of print statement"
  | _ => "end of statement block"

def found (opening : Opening) : List Token → String
  | [] => "end of template"
  | .name s :: _ => s
  | .text _ :: _ => "string"
  | .number _ :: _ => "integer"
  | .op s :: _ => s
  | .stop :: _ => stopName opening
  | .problem _ :: _ => ""

def failAt (ts : List Token) (f : Fault) : Except Problem α :=
  match ts with
  | .problem p :: _ => .error p
  | _ => .error (.fault f)

/-- Whether an operator, a bracket, a comma or a condition goes on with an expression. -/
def goesOn : List Token → Bool
  | .op s :: _ => s != "." && s != "=" && s != ":" && s != ")" && s != "|" && s != ";"
  | .name x :: _ => ["and", "if", "in", "is", "not", "or", "recursive"].contains x
  | _ => false

def expected (opening : Opening) (what : String) (ts : List Token) : Except Problem α :=
  match ts with
  | [] => .error (.fault (.earlyEnd what))
  | ts =>
    if goesOn ts then .error .beyond else failAt ts (.expectedToken what (found opening ts))

def noOperand (opening : Opening) (ts : List Token) : Except Problem α :=
  match ts with
  | .op s :: _ =>
    if ["(", "[", "\x7b", "+", "-", "*", "**"].contains s then .error .beyond
    else failAt ts (.unexpectedToken (found opening ts))
  | ts => failAt ts (.unexpectedToken (found opening ts))

/-- What follows a dot is a member or the place of an element. -/
def parseItems (e : Expr) : List Token → Except Problem (Expr × List Token)
  | .op "." :: .name x :: ts => parseItems (.item e (.text x)) ts
  | .op "." :: .number n :: ts => parseItems (.item e (.number n)) ts
  | .op "." :: .problem p :: _ => .error p
  | .op "." :: ts => failAt ts.tail .noAttributeName
  | ts => .ok (e, ts)

def parseTexts (s : String) : List Token → String × List Token
  | .text t :: ts => parseTexts (s ++ t) ts
  | ts => (s, ts)

def namedConstant? : String → Option Value
  | "true" | "True" => some (.truth true)
  | "false" | "False" => some (.truth false)
  | "none" | "None" => some .nothing
  | _ => none

def ofName (x : String) : Expr :=
  match namedConstant? x with
  | some v => .constant v
  | none => .name x

def parseOperand (opening : Opening) : List Token → Except Problem (Expr × List Token)
  | .text s :: ts =>
    let (s, ts) := parseTexts s ts
    parseItems (.constant (.text s)) ts
  | .number n :: ts => parseItems (.constant (.number n)) ts
  | .name x :: ts => parseItems (ofName x) ts
  | ts => noOperand opening ts

def parseFilterName (opening : Opening) (name : String) :
    List Token → Except Problem (String × List Token)
  | .op "." :: .name x :: ts => parseFilterName opening (name ++ "." ++ x) ts
  | .op "." :: ts => expected opening "name" ts
  | ts => .ok (name, ts)

abbrev Args := List (Option String × Expr)

mutual

/-- An expression; the fuel is more than the number of tokens. -/
def parseExpr (opening : Opening) : (fuel : Nat) → List Token → Except Problem (Expr × List Token)
  | fuel + 1, .name "not" :: ts => do
    let (e, ts) ← parseExpr opening fuel ts
    return (.negation e, ts)
  | fuel + 1, ts => do
    let (e, ts) ← parseOperand opening ts
    parseFilters opening e fuel ts
  | 0, ts => noOperand opening ts

def parseFilters (opening : Opening) (e : Expr) :
    (fuel : Nat) → List Token → Except Problem (Expr × List Token)
  | fuel + 1, .op "|" :: .name f :: ts => do
    let (f, ts) ← parseFilterName opening f ts
    let (args, ts) ← parseArgs opening fuel ts
    parseFilters opening (.filtered e f args) fuel ts
  | _, .op "|" :: ts => expected opening "name" ts
  | _, ts => .ok (e, ts)

def parseArgs (opening : Opening) : (fuel : Nat) → List Token → Except Problem (Args × List Token)
  | fuel + 1, .op "(" :: ts => parseNextArg opening false fuel ts
  | _, ts => .ok ([], ts)

/-- The arguments from here on; after one that is named all are. -/
def parseNextArg (opening : Opening) (named : Bool) :
    (fuel : Nat) → List Token → Except Problem (Args × List Token)
  | _, .op ")" :: ts => .ok ([], ts)
  | fuel + 1, .name x :: .op "=" :: ts => do
    let (e, ts) ← parseExpr opening fuel ts
    let (args, ts) ← parseMoreArgs opening true fuel ts
    return ((some x, e) :: args, ts)
  | _, .name _ :: .problem p :: _ => .error p
  | fuel + 1, ts =>
    if named then failAt ts .malformedCall
    else do
      let (e, ts) ← parseExpr opening fuel ts
      let (args, ts) ← parseMoreArgs opening false fuel ts
      return ((none, e) :: args, ts)
  | 0, ts => noOperand opening ts

def parseMoreArgs (opening : Opening) (named : Bool) :
    (fuel : Nat) → List Token → Except Problem (Args × List Token)
  | _, .op ")" :: ts => .ok ([], ts)
  | fuel + 1, .op "," :: ts => parseNextArg opening named fuel ts
  | _, ts => expected opening "," ts

end

def parseWhole (opening : Opening) : List Token → Except Problem (Expr × List Token)
  | .stop :: _ => .error (.fault (.noExpression (stopName opening)))
  | ts => parseExpr opening (ts.length + 1) ts

def parseStop (opening : Opening) : List Token → Except Problem Unit
  | .stop :: _ => .ok ()
  | ts => expected opening (stopName opening) ts

def parsePartStop : List Token → Except Problem Unit
  | .op ":" :: ts => parseStop .tag ts
  | ts => parseStop .tag ts

def parsePrint (ts : List Token) : Except Problem Expr := do
  let (e, ts) ← parseWhole .print ts
  parseStop .print ts
  return e

def constantTarget (ts : List Token) : Except Problem α :=
  if ts.head? = some (.op ",") then .error .beyond else failAt ts .constantTarget

def parseTarget : List Token → Except Problem (String × List Token)
  | .stop :: _ => .error (.fault (.noExpression (stopName .tag)))
  | .name x :: ts => if (namedConstant? x).isSome then constantTarget ts else .ok (x, ts)
  | .text s :: ts => constantTarget (parseTexts s ts).2
  | .number _ :: ts => constantTarget ts
  | ts => noOperand .tag ts

def parseLoop (ts : List Token) : Except Problem (String × Expr) := do
  match ← parseTarget ts with
  | (x, .name "in" :: ts) =>
    let (e, ts) ← parseWhole .tag ts
    parsePartStop ts
    return (x, e)
  | (_, ts) => expected .tag "in" ts

end Expressions

/-- A loop that is not closed yet: the nodes before it, and its body once that has been read. -/
structure OpenLoop where
  var : String
  source : Expr
  before : List Node
  body : Option (List Node)

def OpenLoop.part (l : OpenLoop) : LoopPart := if l.body.isSome then .otherwise else .body

def OpenLoop.close (l : OpenLoop) (nodes : List Node) : Node :=
  match l.body with
  | none => .loop l.var l.source nodes []
  | some body => .loop l.var l.source body nodes

def otherTags : List String :=
  ["autoescape", "block", "call", "extends", "filter", "from", "if", "import", "include", "macro",
    "print", "raw", "set", "with"]

/-- The nodes of a template: those that are read at the current depth, then those of the
chunks. -/
def parseChunks : List OpenLoop → List Node → List Chunk → Except Problem (List Node)
  | [], nodes, [] => .ok nodes
  | l :: _, _, [] => .error (.fault (.openLoop l.part))
  | _, _, .problem p :: _ => .error p
  | loops, nodes, .text s :: cs => parseChunks loops (nodes ++ [.text s]) cs
  | loops, nodes, .print ts :: cs => do
    let e ← parsePrint ts
    parseChunks loops (nodes ++ [.print e]) cs
  | loops, nodes, .tag (.name "for" :: ts) :: cs => do
    let (x, e) ← parseLoop ts
    parseChunks (⟨x, e, nodes, none⟩ :: loops) [] cs
  | ⟨x, e, before, none⟩ :: loops, nodes, .tag (.name "else" :: ts) :: cs => do
    parsePartStop ts
    parseChunks (⟨x, e, before, some nodes⟩ :: loops) [] cs
  | l :: loops, nodes, .tag (.name "endfor" :: ts) :: cs => do
    parseStop .tag ts
    parseChunks loops (l.before ++ [l.close nodes]) cs
  | loops, _, .tag (.name t :: _) :: _ =>
    if otherTags.contains t then .error .beyond
    else .error (.fault (.unknownTag t (loops.map OpenLoop.part)))
  | _, _, .tag ts :: _ => failAt ts .noTagName

def parse (template : String) : Except Problem (List Node) := parseChunks [] [] (chunks template)

end AnswerSetLearning.Template
