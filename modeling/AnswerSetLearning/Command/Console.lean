import AnswerSetLearning.Command.Markup
import AnswerSetLearning.Text.CellWidth

namespace AnswerSetLearning.Console

/-- The control characters that the console leaves out: bell, backspace, vertical tab, form feed
and carriage return. -/
def isDropped (c : Char) : Bool :=
  let n := c.toNat
  n == 7 || n == 8 || n == 11 || n == 12 || n == 13

def expandTabs (column : Nat) : List Char → List Char
  | [] => []
  | '\t' :: cs =>
    let width := 8 - column % 8
    List.replicate width ' ' ++ expandTabs (column + width) cs
  | c :: cs => c :: expandTabs (column + cellWidth c) cs

def showLine (cs : List Char) : String :=
  .ofList (dropEndWhile (· == ' ') (expandTabs 0 (cs.filter (!isDropped ·))))

def showText (s : String) : List String := (splitAtEach '\n' s.toList).map showLine

structure Table where
  title : Option String
  header : String × String
  rightAligned : Bool
  rows : List (String × String)

namespace Table

def longest (texts : List String) : Nat := texts.foldl (fun n s => max n s.length) 0

def firstWidth (t : Table) : Nat := longest (t.header.1 :: t.rows.map Prod.fst)

def secondWidth (t : Table) : Nat := longest (t.header.2 :: t.rows.map Prod.snd)

def row (t : Table) (cells : String × String) : String :=
  let pad := if t.rightAligned then padLeft else padRight
  "  " ++ padRight t.firstWidth cells.1 ++ "   " ++ pad t.secondWidth cells.2

def rule (t : Table) : String :=
  " " ++ .ofList (List.replicate (t.firstWidth + t.secondWidth + 5) '─')

/-- The lines above the header: a title in the middle, or an empty line without one. -/
def top (t : Table) : List String :=
  match t.title with
  | none => [""]
  | some title =>
    [blanks ((t.firstWidth + t.secondWidth + 7 - title.length) / 2) ++ title, ""]

def toLines (t : Table) : List String :=
  (t.top ++ t.row t.header :: t.rule :: t.rows.map t.row ++ [""]).map
    fun line => showLine line.toList

end Table

end AnswerSetLearning.Console
