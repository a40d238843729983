import AnswerSetLearning.Induction.LearningTask
import AnswerSetLearning.Template.Eval
import AnswerSetLearning.Template.Parser

namespace AnswerSetLearning.Template

def renderRounds (f : Value → Value → Except Problem String) (before : List Value) :
    List Value → Except Problem String
  | [] => .ok ""
  | v :: vs => do
    let s ← f v (.round before vs)
    let t ← renderRounds f (v :: before) vs
    return s ++ t

mutual

def Node.render (env : Env) : Node → Except Problem String
  | .text s => .ok s
  | .print e => do (← e.value env).display
  | .loop x source body otherwise => do
    let vs ← (← source.value env).elements
    if vs.isEmpty then renderNodes env otherwise
    else renderRounds (fun v r => renderNodes ((x, v) :: (roundName, r) :: env) body) [] vs

def renderNodes (env : Env) : List Node → Except Problem String
  | [] => .ok ""
  | n :: ns => do
    let s ← n.render env
    let t ← renderNodes env ns
    return s ++ t

end

def parseChecked (template : String) : Except Problem (List Node) := do
  let nodes ← parse template
  if maxDepth < depthAmong nodes then throw .beyond
  match problemAmong? nodes with
  | some p => throw p
  | none => return nodes

def renderIn (env : Env) (template : String) : Except Problem String := do
  renderNodes env (← parseChecked template)

section Context

def ofLiterals (ls : List Literal) : Value := .ofTexts (ls.map Literal.text)

def ofExample (e : TrainingExample) : Value :=
  .mapping [("incl", ofLiterals e.incl), ("excl", ofLiterals e.excl), ("ctx", ofLiterals e.ctx)]

def context (t : LearningTask) : Env :=
  [("pos_examples", .list (t.positives.map ofExample)),
    ("neg_examples", .list (t.negatives.map ofExample)),
    ("search_space", .mapping
      [("positive_body", ofLiterals t.space.positiveBody),
        ("general_body", ofLiterals t.space.generalBody),
        ("head", ofLiterals t.space.head)]),
    ("background", .ofTexts (t.background.map Rule.text))]

end Context

def exampleLine (sign : String) : String :=
  "#" ++ sign ++ "(\x7b \x7b\x7b- e.incl | join(\", \") -\x7d\x7d \x7d, " ++
    "\x7b \x7b\x7b- e.excl | join(\", \") -\x7d\x7d \x7d, " ++
    "\x7b \x7b%- for c in e.ctx %\x7d \x7b\x7b c \x7d\x7d.\x7b% endfor %\x7d \x7d)."

def defaultLines : List String :=
  ["% ===== tło =====",
    "\x7b% for rule in background %\x7d",
    "\x7b\x7b rule \x7d\x7d",
    "\x7b% endfor %\x7d",
    "",
    "% ===== przestrzeń poszukiwań =====",
    "\x7b% for lit in search_space.head %\x7d",
    "#modeh(\x7b\x7b lit \x7d\x7d).",
    "\x7b% endfor %\x7d",
    "\x7b% for lit in search_space.positive_body %\x7d",
    "#modeb(\x7b\x7b lit \x7d\x7d, (positive)).",
    "\x7b% endfor %\x7d",
    "\x7b% for lit in search_space.general_body %\x7d",
    "#modeb(\x7b\x7b lit \x7d\x7d).",
    "\x7b% endfor %\x7d",
    "",
    "% ===== przykłady pozytywne =====",
    "\x7b% for e in pos_examples %\x7d",
    exampleLine "pos",
    "\x7b% endfor %\x7d",
    "",
    "% ===== przykłady negatywne =====",
    "\x7b% for e in neg_examples %\x7d",
    exampleLine "neg",
    "\x7b% endfor %\x7d"]

/-- The template that is used when no other is given. -/
def defaultTemplate : String := unlines defaultLines

def render (t : LearningTask) (template : Option String) : Except Problem String :=
  renderIn (context t) (template.getD defaultTemplate)

end AnswerSetLearning.Template
