import AnswerSetLearning.Solver.Expression

namespace AnswerSetLearning.Solver

inductive FactToken
  | plain (a : Arg)
  | mark (s : String)
  deriving DecidableEq

namespace FactToken

def isSpace (c : Char) : Bool := c == ' ' || c == '\t' || c == '\n' || c == '\r'

def isMark (c : Char) : Bool := "()|,;+-*/\\^?&~".toList.contains c

/-- What stands in quotes, and how many characters it takes with the closing quote. -/
def quoted? : List Char → Option (List Char × Nat)
  | '"' :: _ => some ([], 1)
  | '\\' :: 'n' :: cs => (quoted? cs).map fun (text, size) => ('\n' :: text, size + 2)
  | '\\' :: c :: cs =>
    if c == '\\' || c == '"' then (quoted? cs).map fun (text, size) => (c :: text, size + 2)
    else none
  | '\n' :: _ => none
  | c :: cs => (quoted? cs).map fun (text, size) => (c :: text, size + 1)
  | [] => none

def bound? : List Char → Option Term
  | ['i', 'n', 'f'] | ['i', 'n', 'f', 'i', 'm', 'u', 'm'] => some .infimum
  | ['s', 'u', 'p'] | ['s', 'u', 'p', 'r', 'e', 'm', 'u', 'm'] => some .supremum
  | _ => none

def piece? : List Char → Option (Option FactToken × Nat)
  | '.' :: '.' :: _ => some (some (mark ".."), 2)
  | '*' :: '*' :: _ => some (some (mark "**"), 2)
  | '"' :: cs =>
    (quoted? cs).map fun (text, size) => (some (plain (.value (.quoted (.ofList text)))), size + 1)
  | '#' :: cs =>
    let word := cs.takeWhile isNameChar
    (bound? word).map fun t => (some (plain (.value t)), word.length + 1)
  | c :: cs =>
    if isSpace c then some (none, 1)
    else if isMark c then some (some (mark (.ofList [c])), 1)
    else
      let word := (c :: cs).takeWhile isNameChar
      (Arg.ofWord? word).map fun a => (some (plain a), word.length)
  | [] => none

/-- The tokens of a text. A token is taken at its first character, and the `skip` others are
passed over. -/
def all? : (skip : Nat) → List Char → Option (List FactToken)
  | _, [] => some []
  | skip + 1, _ :: cs => all? skip cs
  | 0, c :: cs =>
    (piece? (c :: cs)).bind fun (token?, size) =>
      (all? (size - 1) cs).map fun tokens => token?.toList ++ tokens

end FactToken

abbrev Reading (α : Type) := Option (α × List FactToken)

mutual

/-- An expression of operators that bind at least as strongly as the level says. -/
def readExpression : (fuel : Nat) → (level : Nat) → List FactToken → Reading Expression
  | 0, _, _ => none
  | fuel + 1, level, ts => (readOperand fuel ts).bind fun (e, ts) => readOperations fuel level e ts

def readOperations :
    (fuel : Nat) → (level : Nat) → (left : Expression) → List FactToken → Reading Expression
  | 0, _, _, _ => none
  | fuel + 1, level, left, ts =>
    match ts with
    | .mark s :: rest =>
      match (Operator.ofMark? s).filter (level ≤ ·.level) with
      | some o => (readExpression fuel o.rightLevel rest).bind fun (right, ts) =>
        readOperations fuel level (.operation o left right) ts
      | none => some (left, ts)
    | _ => some (left, ts)

def readOperand : (fuel : Nat) → List FactToken → Reading Expression
  | 0, _ => none
  | fuel + 1, ts =>
    match ts with
    | .mark "-" :: ts => (readOperand fuel ts).map fun (e, ts) => (.negation e, ts)
    | .mark "~" :: ts => (readOperand fuel ts).map fun (e, ts) => (.complement e, ts)
    | .mark "|" :: ts => (readChoice fuel ts).map fun (e, ts) => (.absolute e, ts)
    | .mark "(" :: ts => readGroup fuel none ts
    | .plain (.value (.constant f)) :: .mark "(" :: ts =>
      readGroup fuel (some (.plain (.value (.constant f)))) ts
    | .plain a :: ts => some (.plain a, ts)
    | _ => none

def readChoice : (fuel : Nat) → List FactToken → Reading Expression
  | 0, _ => none
  | fuel + 1, ts =>
    match readExpression fuel 0 ts with
    | some (e, .mark "|" :: ts) => some (e, ts)
    | some (e, .mark ";" :: ts) => (readChoice fuel ts).map fun (f, ts) => (.either e f, ts)
    | _ => none

def readGroup : (fuel : Nat) → (function : Option Expression) → List FactToken → Reading Expression
  | 0, _, _ => none
  | fuel + 1, function, ts =>
    match readItems fuel ts with
    | some ((items, comma), .mark ")" :: ts) =>
      (Expression.ofItems? function items comma).map fun e => (e, ts)
    | some ((items, comma), .mark ";" :: ts) =>
      (Expression.ofItems? function items comma).bind fun e =>
        (readGroup fuel function ts).map fun (f, ts) => (.either e f, ts)
    | _ => none

def readItems : (fuel : Nat) → List FactToken → Reading (List Expression × Bool)
  | 0, _ => none
  | fuel + 1, ts =>
    match ts with
    | .mark ")" :: _ | .mark ";" :: _ => some (([], false), ts)
    | ts => (readExpression fuel 0 ts).bind fun (e, ts) =>
      match ts with
      | .mark "," :: .mark ")" :: ts => some (([e], true), .mark ")" :: ts)
      | .mark "," :: .mark ";" :: ts => some (([e], true), .mark ";" :: ts)
      | .mark "," :: ts =>
        (readItems fuel ts).map fun ((items, comma), ts) => ((e :: items, comma), ts)
      | ts => some (([e], false), ts)

end

/-- A constant or a function, with nothing after it. No token is passed by more than five calls,
one in another. -/
def readAtom? (ts : List FactToken) : Option Expression :=
  match ts with
  | .plain (.value (.constant _)) :: _ =>
    match readOperand (5 * (ts.length + 1)) ts with
    | some (e, []) => some e
    | _ => none
  | _ => none

def readFact? : List FactToken → Option Expression
  | .mark "-" :: ts => (readAtom? ts).map .negation
  | ts => readAtom? ts

namespace Pattern

def ofValue : Arg → Pattern
  | .value t => ⟨t.spine.1, t.args.map .value⟩
  | a => ⟨"", [a]⟩

/-- The atoms that a fact states. If its arguments are plain words, it is what it says. Left out
are the texts that are no atom: a choice such as `{a}` or two facts in one. -/
def ofFact? (l : Literal) : Option (List Pattern) :=
  match ofLiteral? l with
  | some p => some [p]
  | none =>
    ((FactToken.all? 0 l.text.toList).bind readFact?).map fun e => e.values.map ofValue

end Pattern

end AnswerSetLearning.Solver
