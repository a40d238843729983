import AnswerSetLearning.Template.Expr
import AnswerSetLearning.Template.Lexer

namespace AnswerSetLearning.Template

abbrev Env := List (String × Value)

def globals : Env :=
  [("range", .kind "range"), ("dict", .kind "dict"), ("cycler", .kind "jinja2.utils.Cycler"),
    ("joiner", .kind "jinja2.utils.Joiner"), ("namespace", .kind "jinja2.utils.Namespace")]

def Env.find (env : Env) (x : String) : Lookup :=
  match (env.lookup x).or (globals.lookup x) with
  | some v => .ok v
  | none =>
    if x = "lipsum" ∨ x = "self" then .error .beyond else .error (.fault (.undefinedName x))

section Filters

def boundArgs : (params : List String) → List (Option String × Lookup) →
    Option (List (String × Lookup))
  | _, [] => some []
  | [], _ :: _ => none
  | p :: ps, (none, v) :: args => (boundArgs ps args).map ((p, v) :: ·)
  | p :: ps, (some x, v) :: args =>
    if (p :: ps).contains x then (boundArgs ((p :: ps).erase x) args).map ((x, v) :: ·) else none

def pathKey (part : List Char) : Lookup :=
  if part.any (0x80 ≤ ·.toNat) || maxDigits ≤ part.length then .error .beyond
  else if !part.isEmpty && part.all isAsciiDigit then .ok (.number (digitsValue part))
  else .ok (.text (.ofList part))

/-- The keys that lead from an element to what is joined; the parts of a text are separated by
dots. -/
def keyPath : Value → Except Problem (List Value)
  | .text s => (splitAtEach '.' s.toList).mapM pathKey
  | v => .ok [v]

def atPath (path : Lookup) (v : Value) : Lookup :=
  match path, v with
  | .ok path, v => do (← keyPath path).foldlM Value.item v
  | .error (.fault f), .mapping _ => .error (.fault f)
  | .error (.fault _), v => .error (.fault (.noElement v.faultName "Undefined"))
  | .error p, _ => .error p

def joined (sep : Lookup) (path : Option Lookup) (v : Lookup) : Except Problem String := do
  match path with
  | none | some (.ok .nothing) =>
    let sep ← (← sep).display
    let vs ← (← v).elements
    return joinWith sep (← vs.mapM Value.display)
  | some path =>
    let vs ← (← v).elements
    let sep ← (← sep).display
    return joinWith sep (← vs.mapM fun v => (atPath path v).bind Value.display)

def applyFilter (name : String) (args : List (Option String × Lookup)) (v : Lookup) :
    Except Problem Value :=
  if name = "join" then
    match boundArgs ["d", "attribute"] args with
    | none => .error .wrongKind
    | some bound =>
      (joined ((bound.lookup "d").getD (.ok (.text ""))) (bound.lookup "attribute") v).map .text
  else if name = "length" ∨ name = "count" then
    if args.isEmpty then do
      match (← v).size? with
      | some n => return .number n
      | none => throw .wrongKind
    else .error .wrongKind
  else .error (.fault (.unknownFilter name))

end Filters

mutual

def Expr.eval (env : Env) : Expr → Except Problem Lookup
  | .constant v => .ok (.ok v)
  | .name x => .ok (env.find x)
  | .item e key => do
    let v ← (← e.eval env)
    return v.item key
  | .negation e => do
    let v ← (← e.eval env)
    return .ok (.truth !v.holds)
  | .filtered e f args => do
    let v ← e.eval env
    let args ← evalArgs env args
    let w ← applyFilter f args v
    return .ok w

def evalArgs (env : Env) :
    List (Option String × Expr) → Except Problem (List (Option String × Lookup))
  | [] => .ok []
  | (x, e) :: args => do
    let v ← e.eval env
    let vs ← evalArgs env args
    return (x, v) :: vs

end

def Expr.value (env : Env) (e : Expr) : Except Problem Value := do (← e.eval env)

end AnswerSetLearning.Template
