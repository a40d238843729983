import AnswerSetLearning.Reader.Grammar
import AnswerSetLearning.Text.Lines
import AnswerSetLearning.Text.Utf8

namespace AnswerSetLearning

/-- A place in a text that could not be read; line and column count from 1. -/
structure ParseFault where
  line : Nat
  column : Nat
  excerpt : String
  deriving DecidableEq

def excerptLength : Nat := 20

namespace ParseFault

def ofOffset (cs : List Char) (offset : Nat) : ParseFault :=
  let before := cs.take offset
  let rest := cs.drop offset
  { line := before.count '\n' + 1
    column := (before.reverse.takeWhile (· != '\n')).length + 1
    excerpt :=
      if excerptLength < rest.length then .ofList (rest.take excerptLength) ++ "..."
      else .ofList rest }

def message (f : ParseFault) : String :=
  "Nieparsowalna treść w linii " ++ Nat.repr f.line ++ ", kolumna " ++ Nat.repr f.column ++
    ": '" ++ f.excerpt ++ "'"

end ParseFault

def parseDocument (cs : List Char) : Except Nat Document :=
  match tokenize cs with
  | .error offset => .error offset
  | .ok tokens =>
    match readDocument tokens with
    | .ok d => .ok d
    | .error (some t) => .error t.offset
    | .error none => .error cs.length

def parseTask (text : String) : Except ParseFault Task :=
  match parseDocument text.toList with
  | .ok d => .ok d.task
  | .error offset => .error (.ofOffset text.toList offset)

/-- The text of a file: UTF-8, every line end read as a line feed. -/
def decodeText (bytes : List Nat) : Except Utf8Fault String :=
  (decodeUtf8 bytes).map fun cs => .ofList (withLineFeeds cs)

end AnswerSetLearning
