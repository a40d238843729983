import AnswerSetLearning.Template.Value

namespace AnswerSetLearning.Template

/-- The arguments of a filter come by place, or by the name of a parameter. -/
inductive Expr
  | constant (v : Value)
  | name (x : String)
  | item (e : Expr) (key : Value)
  | negation (e : Expr)
  | filtered (e : Expr) (filter : String) (args : List (Option String × Expr))

/-- A loop has a body, and nodes for the case that there is nothing to run over. -/
inductive Node
  | text (s : String)
  | print (e : Expr)
  | loop (var : String) (source : Expr) (body otherwise : List Node)

def isFilter (name : String) : Bool := name == "length" || name == "count" || name == "join"

def otherFilters : List String :=
  ["abs", "attr", "batch", "capitalize", "center", "d", "default", "dictsort", "e", "escape",
    "filesizeformat", "first", "float", "forceescape", "format", "groupby", "indent", "int",
    "items", "last", "list", "lower", "map", "max", "min", "pprint", "random", "reject",
    "rejectattr", "replace", "reverse", "round", "safe", "select", "selectattr", "slice", "sort",
    "string", "striptags", "sum", "title", "tojson", "trim", "truncate", "unique", "upper",
    "urlencode", "urlize", "wordcount", "wordwrap", "xmlattr"]

section Checks

def arePlain (params : List String) : Bool :=
  params.Nodup && params.all fun x => x.toList.all fun c => 'a' ≤ c && c ≤ 'z'

def filterProblem (f : String) (params : List String) : Option Problem :=
  if otherFilters.contains f then some .beyond
  else if !isFilter f then some (.fault (.unknownFilter f))
  else if arePlain params then none
  else some .beyond

mutual

def Expr.problem? : Expr → Option Problem
  | .constant _ => none
  | .name _ => none
  | .item e _ => e.problem?
  | .negation e => e.problem?
  | .filtered e f args =>
    ((filterProblem f (args.filterMap Prod.fst)).or e.problem?).or (problemIn? args)

def problemIn? : List (Option String × Expr) → Option Problem
  | [] => none
  | (_, e) :: args => e.problem?.or (problemIn? args)

end

def roundName : String := "loop"

mutual

def Node.assignsRound : Node → Bool
  | .text _ => false
  | .print _ => false
  | .loop x _ body otherwise => x == roundName || assignRound body || assignRound otherwise

def assignRound : List Node → Bool
  | [] => false
  | n :: ns => n.assignsRound || assignRound ns

end

mutual

/-- The first problem that is noticed before anything is rendered. -/
def Node.problem? : Node → Option Problem
  | .text _ => none
  | .print e => e.problem?
  | .loop x source body otherwise =>
    if (Node.loop x source body otherwise).assignsRound then some (.fault .reservedTarget)
    else source.problem?.or ((problemAmong? body).or (problemAmong? otherwise))

def problemAmong? : List Node → Option Problem
  | [] => none
  | n :: ns => n.problem?.or (problemAmong? ns)

end

end Checks

section Depth

mutual

def Expr.depth : Expr → Nat
  | .constant _ => 1
  | .name _ => 1
  | .item e _ => e.depth + 1
  | .negation e => e.depth + 1
  | .filtered e _ args => max e.depth (depthIn args) + 1

def depthIn : List (Option String × Expr) → Nat
  | [] => 0
  | (_, e) :: args => max e.depth (depthIn args)

end

mutual

def Node.depth : Node → Nat
  | .text _ => 0
  | .print e => e.depth
  | .loop _ source body otherwise =>
    max source.depth (max (depthAmong body) (depthAmong otherwise)) + 1

def depthAmong : List Node → Nat
  | [] => 0
  | n :: ns => max n.depth (depthAmong ns)

end

/-- A template may be nested this deep; more is turned down at some depth beyond it. -/
def maxDepth : Nat := 16

end Depth

end AnswerSetLearning.Template
