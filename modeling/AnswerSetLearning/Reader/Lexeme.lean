import AnswerSetLearning.Text.Classes
import AnswerSetLearning.Rule

namespace AnswerSetLearning

inductive Lexeme
  | input
  | outputs
  | implies
  | relation (r : Relation)
  | openParen
  | closeParen
  | openBrace
  | closeBrace
  | comma
  | stop
  | integer (digits : String)
  | var (name : String)
  | constant (name : String)
  | anonymous
  deriving DecidableEq

namespace Lexeme

def text : Lexeme → String
  | input => "I:"
  | outputs => "O:"
  | implies => ":-"
  | relation r => r.text
  | openParen => "("
  | closeParen => ")"
  | openBrace => "\x7b"
  | closeBrace => "\x7d"
  | comma => ","
  | stop => "."
  | integer digits => digits
  | var name => name
  | constant name => name
  | anonymous => "_"

def argument? : Lexeme → Option String
  | integer digits => some digits
  | var name => some name
  | constant name => some name
  | anonymous => some "_"
  | _ => none

def operand? : Lexeme → Option String
  | integer digits => some digits
  | var name => some name
  | _ => none

end Lexeme

/-- A piece of the text: a lexeme, or blanks or a comment when there is none. -/
structure Piece where
  lexeme? : Option Lexeme
  size : Nat
  deriving DecidableEq

namespace Piece

def gap (size : Nat) : Piece := ⟨none, size⟩

def lexeme (l : Lexeme) (size : Nat) : Piece := ⟨some l, size⟩

end Piece

def isUnderscore (c : Char) : Bool := c == '_'

def isLineEnd (c : Char) : Bool := c == '\n' || c == '\r'

/-- A name: underscores, a letter that tells a variable from a constant, and more name
characters. Underscores alone are anonymous variables, one each. -/
def namePiece? (cs : List Char) : Option Piece :=
  let underscores := cs.takeWhile isUnderscore
  match cs.dropWhile isUnderscore with
  | c :: rest =>
    let name := underscores ++ c :: rest.takeWhile isNameChar
    if isUpperLetter c then some (.lexeme (.var (.ofList name)) name.length)
    else if isLowerLetter c then some (.lexeme (.constant (.ofList name)) name.length)
    else if underscores.isEmpty then none
    else some (.lexeme .anonymous 1)
  | [] => if underscores.isEmpty then none else some (.lexeme .anonymous 1)

/-- Blanks, digits or a name: the pieces that are as long as they can be. -/
def longPiece? (cs : List Char) : Option Piece :=
  match cs with
  | [] => none
  | c :: _ =>
    if isBlank c then some (.gap (cs.takeWhile isBlank).length)
    else if isDecimalDigit c then
      let digits := cs.takeWhile isDecimalDigit
      some (.lexeme (.integer (.ofList digits)) digits.length)
    else namePiece? cs

/-- The piece at the front of a text. `I:` and `O:` are no section marks before a `-`: then a
variable is followed by `:-`. -/
def piece? : List Char → Option Piece
  | '%' :: cs => some (.gap (1 + (cs.takeWhile (!isLineEnd ·)).length))
  | 'I' :: ':' :: '-' :: _ => some (.lexeme (.var "I") 1)
  | 'O' :: ':' :: '-' :: _ => some (.lexeme (.var "O") 1)
  | 'I' :: ':' :: _ => some (.lexeme .input 2)
  | 'O' :: ':' :: _ => some (.lexeme .outputs 2)
  | ':' :: '-' :: _ => some (.lexeme .implies 2)
  | '!' :: '=' :: _ => some (.lexeme (.relation .unequal) 2)
  | '>' :: _ => some (.lexeme (.relation .greater) 1)
  | '<' :: _ => some (.lexeme (.relation .less) 1)
  | '(' :: _ => some (.lexeme .openParen 1)
  | ')' :: _ => some (.lexeme .closeParen 1)
  | '\x7b' :: _ => some (.lexeme .openBrace 1)
  | '\x7d' :: _ => some (.lexeme .closeBrace 1)
  | ',' :: _ => some (.lexeme .comma 1)
  | '.' :: _ => some (.lexeme .stop 1)
  | cs => longPiece? cs

end AnswerSetLearning
