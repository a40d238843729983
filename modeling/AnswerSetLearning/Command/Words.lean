import AnswerSetLearning.Text.Lines

/-!
# Splitting a line into words

Words are separated by blanks. Quotes keep blanks together; a backslash takes the next character
as it stands, between double quotes only before a quote or a backslash, and between single
quotes never.
-/

namespace AnswerSetLearning

inductive WordFault
  | noClosingQuotation
  | noEscapedCharacter
  deriving DecidableEq

def WordFault.message : WordFault → String
  | noClosingQuotation => "No closing quotation"
  | noEscapedCharacter => "No escaped character"

def isWordSeparator (c : Char) : Bool := c == ' ' || c == '\t' || c == '\r' || c == '\n'

/-- Where a splitter stands. A word holds its characters, last first. -/
inductive WordState
  | between
  | word (chars : List Char)
  | single (chars : List Char)
  | double (chars : List Char)
  | escape (chars : List Char)
  | doubleEscape (chars : List Char)
  deriving DecidableEq

namespace WordState

def start (chars : List Char) (c : Char) : WordState :=
  if c = '\'' then single chars
  else if c = '"' then double chars
  else if c = '\\' then escape chars
  else word (c :: chars)

def splitFrom : WordState → List Char → Except WordFault (List String)
  | between, [] => .ok []
  | word w, [] => .ok [.ofList w.reverse]
  | single _, [] => .error .noClosingQuotation
  | double _, [] => .error .noClosingQuotation
  | escape _, [] => .error .noEscapedCharacter
  | doubleEscape _, [] => .error .noEscapedCharacter
  | between, c :: cs =>
    if isWordSeparator c then splitFrom between cs else splitFrom (start [] c) cs
  | word w, c :: cs =>
    if isWordSeparator c then (splitFrom between cs).map (.ofList w.reverse :: ·)
    else splitFrom (start w c) cs
  | single w, c :: cs => splitFrom (if c = '\'' then word w else single (c :: w)) cs
  | double w, c :: cs =>
    splitFrom
      (if c = '"' then word w else if c = '\\' then doubleEscape w else double (c :: w)) cs
  | escape w, c :: cs => splitFrom (word (c :: w)) cs
  | doubleEscape w, c :: cs =>
    splitFrom (if c = '"' || c = '\\' then double (c :: w) else double (c :: '\\' :: w)) cs

end WordState

def splitWords (s : String) : Except WordFault (List String) := WordState.between.splitFrom s.toList

end AnswerSetLearning
