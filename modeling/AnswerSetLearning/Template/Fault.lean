import AnswerSetLearning.Text.Quoted

namespace AnswerSetLearning.Template

inductive LoopPart
  | body
  | otherwise
  deriving DecidableEq

def LoopPart.ends : LoopPart → List String
  | body => ["endfor", "else"]
  | otherwise => ["endfor"]

inductive Fault
  | undefinedName (name : String)
  | noAttribute (kind name : String)
  | noElement (kind key : String)
  | noNeighbour (side : String)
  | unexpectedChar (c : Char) (offset : Nat)
  | unexpectedBracket (c : Char)
  | wrongBracket (c expected : Char)
  | openComment
  | malformedName
  | truncatedEscape (letter : Char) (digits : Nat)
  | illegalCharacter
  | malformedNameEscape
  | noExpression (found : String)
  | unexpectedToken (found : String)
  | expectedToken (expected found : String)
  | earlyEnd (expected : String)
  | noAttributeName
  | malformedCall
  | constantTarget
  | reservedTarget
  | noTagName
  | unknownTag (name : String) (parts : List LoopPart)
  | openLoop (part : LoopPart)
  | unknownFilter (name : String)
  deriving DecidableEq

namespace Fault

def tagNames (part : LoopPart) : String := joinWith " or " (part.ends.map quoted)

def lookingFor (part : LoopPart) : String :=
  " Jinja was looking for the following tags: " ++ tagNames part ++ "."

def misplaced (part : LoopPart) : String :=
  " You probably made a nesting mistake. Jinja is expecting this tag, but currently looking for " ++
    tagNames part ++ "."

def innermostLoop : String := " The innermost block that needs to be closed is 'for'."

/-- What a tag without a meaning stands in; the parts of the loops around it are given, the
innermost first. -/
def tagPlace (name : String) : List LoopPart → String
  | [] => ""
  | part :: parts =>
    (if parts.any (·.ends.contains name) then misplaced part else lookingFor part) ++
      innermostLoop

def detail : Fault → String
  | undefinedName name => quoted name ++ " is undefined"
  | noAttribute kind name => quoted kind ++ " has no attribute " ++ quoted name
  | noElement kind key => kind ++ " has no element " ++ key
  | noNeighbour side => "there is no " ++ side ++ " item"
  | unexpectedChar c offset =>
    "unexpected char " ++ quoted (.ofList [c]) ++ " at " ++ Nat.repr offset
  | unexpectedBracket c => "unexpected " ++ quoted (.ofList [c])
  | wrongBracket c expected =>
    "unexpected " ++ quoted (.ofList [c]) ++ ", expected " ++ quoted (.ofList [expected])
  | openComment => "Missing end of comment tag"
  | malformedName => "Invalid character in identifier"
  | truncatedEscape letter digits =>
    "truncated \\" ++ .ofList (letter :: List.replicate digits 'X') ++ " escape"
  | illegalCharacter => "illegal Unicode character"
  | malformedNameEscape => "malformed \\N character escape"
  | noExpression found => "Expected an expression, got " ++ quoted found
  | unexpectedToken found => "unexpected " ++ quoted found
  | expectedToken expected found =>
    "expected token " ++ quoted expected ++ ", got " ++ quoted found
  | earlyEnd expected => "unexpected end of template, expected " ++ quoted expected ++ "."
  | noAttributeName => "expected name or number"
  | malformedCall => "invalid syntax for function call expression"
  | constantTarget => "can't assign to 'const'"
  | reservedTarget => "Can't assign to special loop variable in for-loop target"
  | noTagName => "tag name expected"
  | unknownTag name parts =>
    "Encountered unknown tag " ++ quoted name ++ "." ++ tagPlace name parts
  | openLoop part => "Unexpected end of template." ++ lookingFor part ++ innermostLoop
  | unknownFilter name => "No filter named " ++ quoted name ++ "."

end Fault

/-- What keeps a template from being rendered: a fault of its own, an operation on a value of a
kind that has no such operation, or a construct beyond the part of the language that is rendered
here. -/
inductive Problem
  | fault (f : Fault)
  | wrongKind
  | beyond
  deriving DecidableEq

end AnswerSetLearning.Template
