import AnswerSetLearning.Reader.Document
import AnswerSetLearning.Reader.Tokens

/-!
# The grammar

    task    = rule* example*
    rule    = term "." | [term] ":-" element ("," element)* "."
    element = ["not"] term | operand relation operand
    term    = constant ["(" [argument ("," argument)*] ")"]
    example = "I:" term* "O:" ("{" term* "}")*

No part of it nests, so a state machine reads it: a state is what has been read so far, and a
lexeme is wrong where no state follows.
-/

namespace AnswerSetLearning

/-- A term whose predicate has been read. -/
inductive TermState
  | name (predicate : String)
  | opened (predicate : String)
  | argument (predicate : String) (args : List String)
  | comma (predicate : String) (args : List String)
  | closed (literal : Literal)
  deriving DecidableEq

namespace TermState

def step : TermState → Lexeme → Option TermState
  | name p, .openParen => some (opened p)
  | opened p, .closeParen => some (closed ⟨p, []⟩)
  | opened p, x => x.argument?.map fun a => argument p [a]
  | argument p args, .comma => some (comma p args)
  | argument p args, .closeParen => some (closed ⟨p, args⟩)
  | comma p args, x => x.argument?.map fun a => argument p (args ++ [a])
  | _, _ => none

def literal? : TermState → Option Literal
  | name p => some ⟨p, []⟩
  | closed l => some l
  | _ => none

end TermState

structure RuleDraft where
  head : Option Literal
  body : List BodyElement
  deriving DecidableEq

namespace RuleDraft

def add (r : RuleDraft) (e : BodyElement) : RuleDraft := { r with body := r.body ++ [e] }

def rule (r : RuleDraft) : Rule := ⟨r.head, r.body⟩

end RuleDraft

inductive RuleState
  /-- in the head -/
  | head (term : TermState)
  /-- before an element of the body -/
  | element (draft : RuleDraft)
  /-- after a `not` that starts an element -/
  | negation (draft : RuleDraft)
  /-- in an atom -/
  | atom (draft : RuleDraft) (negated : Bool) (term : TermState)
  /-- after the left operand of a comparison -/
  | operand (draft : RuleDraft) (left : String)
  /-- after the relation of a comparison -/
  | relation (draft : RuleDraft) (left : String) (r : Relation)
  /-- after a comparison -/
  | compared (draft : RuleDraft)
  deriving DecidableEq

inductive ScenarioState
  /-- after `I:` or a fact that is complete -/
  | facts (facts : List Literal)
  /-- in a fact -/
  | fact (facts : List Literal) (term : TermState)
  /-- after `O:` or an answer set -/
  | answers (draft : Scenario)
  /-- in an answer set, before a literal -/
  | answer (draft : Scenario) (set : List Literal)
  /-- in a literal of an answer set -/
  | member (draft : Scenario) (set : List Literal) (term : TermState)
  deriving DecidableEq

inductive RuleStep
  | inside (s : RuleState)
  | done (r : Rule)
  deriving DecidableEq

namespace RuleState

def stepElementEnd (d : RuleDraft) : Lexeme → Option RuleStep
  | .comma => some (.inside (element d))
  | .stop => some (.done d.rule)
  | _ => none

def stepAtom (d : RuleDraft) (negated : Bool) (t : TermState) (x : Lexeme) : Option RuleStep :=
  match t.step x with
  | some t => some (.inside (atom d negated t))
  | none => t.literal?.bind fun l => stepElementEnd (d.add (.atom negated l)) x

def step : RuleState → Lexeme → Option RuleStep
  | head t, x =>
    match t.step x with
    | some t => some (.inside (head t))
    | none => t.literal?.bind fun l =>
      match x with
      | .stop => some (.done ⟨some l, []⟩)
      | .implies => some (.inside (element ⟨some l, []⟩))
      | _ => none
  | element d, .constant p =>
    if p = "not" then some (.inside (negation d)) else some (.inside (atom d false (.name p)))
  | element d, x => x.operand?.map fun left => .inside (operand d left)
  | negation d, .constant p => some (.inside (atom d true (.name p)))
  | negation d, x => stepAtom d false (.name "not") x
  | atom d negated t, x => stepAtom d negated t x
  | operand d left, .relation r => some (.inside (relation d left r))
  | operand _ _, _ => none
  | relation d left r, x =>
    x.operand?.map fun right => .inside (compared (d.add (.comparison r left right)))
  | compared d, x => stepElementEnd d x

end RuleState

inductive ScenarioStep
  | inside (s : ScenarioState)
  | next (done : Scenario)
  deriving DecidableEq

namespace ScenarioState

def stepFacts (fs : List Literal) : Lexeme → Option ScenarioStep
  | .constant p => some (.inside (fact fs (.name p)))
  | .outputs => some (.inside (answers ⟨fs, []⟩))
  | _ => none

def stepAnswer (d : Scenario) (set : List Literal) : Lexeme → Option ScenarioStep
  | .constant p => some (.inside (member d set (.name p)))
  | .closeBrace => some (.inside (answers { d with answers := d.answers ++ [set] }))
  | _ => none

def step : ScenarioState → Lexeme → Option ScenarioStep
  | facts fs, x => stepFacts fs x
  | fact fs t, x =>
    match t.step x with
    | some t => some (.inside (fact fs t))
    | none => t.literal?.bind fun l => stepFacts (fs ++ [l]) x
  | answers d, .openBrace => some (.inside (answer d []))
  | answers d, .input => some (.next d)
  | answers _, _ => none
  | answer d set, x => stepAnswer d set x
  | member d set t, x =>
    match t.step x with
    | some t => some (.inside (member d set t))
    | none => t.literal?.bind fun l => stepAnswer d (set ++ [l]) x

end ScenarioState

/-- A place in a task file, with what stands before it. -/
inductive Place
  | rules (before : Document)
  | rule (before : Document) (s : RuleState)
  | scenario (before : Document) (s : ScenarioState)
  deriving DecidableEq

namespace Place

def start : Place := rules .empty

def afterRule (d : Document) : RuleStep → Place
  | .inside s => rule d s
  | .done r => rules (d.addRule r)

def afterScenario (d : Document) : ScenarioStep → Place
  | .inside s => scenario d s
  | .next done => scenario (d.addScenario done) (.facts [])

def step : Place → Lexeme → Option Place
  | rules d, .constant p => some (rule d (.head (.name p)))
  | rules d, .implies => some (rule d (.element ⟨none, []⟩))
  | rules d, .input => some (scenario d (.facts []))
  | rules _, _ => none
  | rule d s, x => (s.step x).map (afterRule d)
  | scenario d s, x => (s.step x).map (afterScenario d)

def document? : Place → Option Document
  | rules d => some d
  | scenario d (.answers done) => some (d.addScenario done)
  | _ => none

end Place

/-- The document that the tokens spell from a place on. Otherwise the first token that is
wrong, or nothing when the tokens end too early. -/
def readFrom : Place → List Token → Except (Option Token) Document
  | p, [] =>
    match p.document? with
    | some d => .ok d
    | none => .error none
  | p, t :: ts =>
    match p.step t.lexeme with
    | some p => readFrom p ts
    | none => .error (some t)

def readDocument (ts : List Token) : Except (Option Token) Document := readFrom .start ts

end AnswerSetLearning
