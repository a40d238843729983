import AnswerSetLearning.Template.Escape
import AnswerSetLearning.Text.Words

/-!
# Cutting a template into chunks

Text, `\x7b\x7b ... \x7d\x7d` and `\x7b% ... %\x7d`; comments are left out. A `-` beside a tag
strips the blanks on its side. Otherwise a block or a comment takes the blanks before it on its
line and the line feed after it along.
-/

namespace AnswerSetLearning.Template

inductive Token
  | name (s : String)
  | text (s : String)
  | number (n : Nat)
  | op (s : String)
  | stop
  | problem (p : Problem)
  deriving DecidableEq

/-- A piece of a template. The tokens of a tag end with `stop`, unless the template ends or a
problem comes before. -/
inductive Chunk
  | text (s : String)
  | print (tokens : List Token)
  | tag (tokens : List Token)
  | problem (p : Problem)
  deriving DecidableEq

inductive Opening
  | print
  | tag
  | comment
  deriving DecidableEq

inductive Sign
  | none
  | strip
  | keep
  deriving DecidableEq

def splitAtOpening : List Char → List Char × Option (Opening × List Char)
  | [] => ([], none)
  | '\x7b' :: '\x7b' :: cs => ([], some (.print, cs))
  | '\x7b' :: '%' :: cs => ([], some (.tag, cs))
  | '\x7b' :: '#' :: cs => ([], some (.comment, cs))
  | c :: cs =>
    let (text, opening) := splitAtOpening cs
    (c :: text, opening)

def takeSign : List Char → Sign × List Char
  | '-' :: cs => (.strip, cs)
  | '+' :: cs => (.keep, cs)
  | cs => (.none, cs)

def dropIndent (lineStart : Bool) (text : List Char) : List Char :=
  let before := dropEndWhile (· != '\n') text
  if (text.drop before.length).all isBlank && (lineStart || !before.isEmpty) then before
  else text

def trimBefore (lineStart : Bool) (text : List Char) : Opening → Sign → List Char
  | _, .strip => dropEndWhile isBlank text
  | .print, .none => text
  | _, .none => dropIndent lineStart text
  | _, .keep => text

abbrev Resume := Bool × List Char

def resumeStripped (cs : List Char) : Resume :=
  ((cs.takeWhile isBlank).getLast? == some '\n', cs.dropWhile isBlank)

def resumeAfterLine : List Char → Resume
  | '\n' :: cs => (true, cs)
  | cs => (false, cs)

def skipComment : List Char → Option Resume
  | '-' :: '#' :: '\x7d' :: cs => some (resumeStripped cs)
  | '+' :: '#' :: '\x7d' :: cs => some (false, cs)
  | '#' :: '\x7d' :: cs => some (resumeAfterLine cs)
  | _ :: cs => skipComment cs
  | [] => none

def closing? (opening : Opening) : List Char → Option Resume
  | '-' :: '\x7d' :: '\x7d' :: cs => if opening = .print then some (resumeStripped cs) else none
  | '\x7d' :: '\x7d' :: cs => if opening = .print then some (false, cs) else none
  | '-' :: '%' :: '\x7d' :: cs => if opening = .tag then some (resumeStripped cs) else none
  | '+' :: '%' :: '\x7d' :: cs => if opening = .tag then some (false, cs) else none
  | '%' :: '\x7d' :: cs => if opening = .tag then some (resumeAfterLine cs) else none
  | _ => none

def moreDigits (isDigit : Char → Bool) : List Char → List Char × List Char
  | '_' :: d :: cs =>
    if isDigit d then
      let (digits, rest) := moreDigits isDigit cs
      (d :: digits, rest)
    else ([], '_' :: d :: cs)
  | d :: cs =>
    if isDigit d then
      let (digits, rest) := moreDigits isDigit cs
      (d :: digits, rest)
    else ([], d :: cs)
  | [] => ([], [])

/-- The number that starts with a digit; after a zero come only zeros. -/
def takeNumber (d : Char) (cs : List Char) : Nat × List Char :=
  let (digits, rest) := moreDigits (if d == '0' then (· == '0') else isAsciiDigit) cs
  (digitsValue (d :: digits), rest)

def isNamePart (c : Char) : Bool := isWordChar c || isJoiner c

/-- A numeral may have this many digits. -/
def maxDigits : Nat := 4300

def numberGoesOn : List Char → Bool
  | [] => false
  | '.' :: cs => cs.head?.any isDecimalDigit
  | c :: _ => isNamePart c

def quotedPart? (quote : Char) : List Char → Option (List Char × List Char)
  | [] => none
  | '\\' :: c :: cs => (quotedPart? quote cs).map fun (s, rest) => ('\\' :: c :: s, rest)
  | c :: cs =>
    if c = quote then some ([], cs)
    else (quotedPart? quote cs).map fun (s, rest) => (c :: s, rest)

def pairedOps : List (List Char) :=
  [['/', '/'], ['*', '*'], ['=', '='], ['!', '='], ['>', '='], ['<', '=']]

def singleOps : List Char :=
  ['+', '-', '/', '*', '%', '~', '[', ']', '(', ')', '\x7b', '\x7d', '>', '<', '=', '.', ':',
    '|', ',', ';']

def operator? (cs : List Char) : Option (List Char) :=
  if pairedOps.contains (cs.take 2) then some (cs.take 2)
  else if cs.head?.any singleOps.contains then some (cs.take 1)
  else none

def bracketEnd? : Char → Option Char
  | '(' => some ')'
  | '[' => some ']'
  | '\x7b' => some '\x7d'
  | _ => none

def isBracketEnd (c : Char) : Bool := c == ')' || c == ']' || c == '\x7d'

def brackets (expected : List Char) : List Char → Except Problem (List Char)
  | [c] =>
    match bracketEnd? c with
    | some e => .ok (e :: expected)
    | none =>
      if isBracketEnd c then
        match expected with
        | [] => .error (.fault (.unexpectedBracket c))
        | e :: rest => if c = e then .ok rest else .error (.fault (.wrongBracket c e))
      else .ok expected
  | _ => .ok expected

/-- The tokens of a tag, and where the text goes on after it. `size` is the length of the whole
template, `expected` holds the ends of the open brackets. -/
def tagTokens (opening : Opening) (size : Nat) :
    (fuel : Nat) → (expected : List Char) → List Char → List Token × Option Resume
  | 0, _, _ => ([], none)
  | _ + 1, _, [] => ([], none)
  | fuel + 1, expected, c :: cs =>
    let emit (t : Token) (expected rest : List Char) : List Token × Option Resume :=
      let (ts, resume) := tagTokens opening size fuel expected rest
      (t :: ts, resume)
    match if expected.isEmpty then closing? opening (c :: cs) else none with
    | some resume => ([.stop], some resume)
    | none =>
      if isBlank c then tagTokens opening size fuel expected cs
      else if isAsciiDigit c then
        let (n, rest) := takeNumber c cs
        if numberGoesOn rest || maxDigits ≤ cs.length - rest.length then
          ([.problem .beyond], none)
        else emit (.number n) expected rest
      else if isDecimalDigit c then ([.problem .beyond], none)
      else if isNamePart c then
        let name := (c :: cs).takeWhile isNamePart
        if isIdentifier name then
          emit (.name (.ofList name)) expected (cs.dropWhile isNamePart)
        else ([.problem (.fault .malformedName)], none)
      else
        match if c = '\'' || c = '"' then quotedPart? c cs else none with
        | some (s, rest) =>
          match unescape s with
          | .error p => ([.problem p], none)
          | .ok s => emit (.text (.ofList s)) expected rest
        | none =>
          match operator? (c :: cs) with
          | none =>
            ([.problem (.fault (.unexpectedChar c (size - (cs.length + 1))))], none)
          | some op =>
            match brackets expected op with
            | .error p => ([.problem p], none)
            | .ok expected => emit (.op (.ofList op)) expected ((c :: cs).drop op.length)

def textChunk (cs : List Char) : List Chunk := if cs.isEmpty then [] else [.text (.ofList cs)]

def chunksFrom (size : Nat) : (fuel : Nat) → (lineStart : Bool) → List Char → List Chunk
  | 0, _, _ => []
  | fuel + 1, lineStart, cs =>
    match splitAtOpening cs with
    | (text, none) => textChunk text
    | (text, some (opening, rest)) =>
      let (sign, rest) := takeSign rest
      let resume : Option Resume → List Chunk
        | some (lineStart, rest) => chunksFrom size fuel lineStart rest
        | none => []
      textChunk (trimBefore lineStart text opening sign) ++
        match opening with
        | .comment =>
          match skipComment rest with
          | some next => resume (some next)
          | none => if rest.isEmpty then [] else [.problem (.fault .openComment)]
        | .print =>
          let (tokens, next) := tagTokens .print size (rest.length + 1) [] rest
          .print tokens :: resume next
        | .tag =>
          let (tokens, next) := tagTokens .tag size (rest.length + 1) [] rest
          .tag tokens :: resume next

def chunks (template : String) : List Chunk :=
  let cs := withLineFeeds template.toList
  chunksFrom cs.length (cs.length + 1) true cs

end AnswerSetLearning.Template
