import AnswerSetLearning.Command.Style

namespace AnswerSetLearning.Markup

structure Fault where
  tag : String
  deriving DecidableEq

def isTagStart (c : Char) : Bool := isLowerLetter c || c == '#' || c == '/' || c == '@'

def tagRest? : List Char → Option (List Char × List Char)
  | [] => none
  | '[' :: _ => none
  | ']' :: cs => some ([], cs)
  | c :: cs => (tagRest? cs).map fun (inside, rest) => (c :: inside, rest)

def tag? : List Char → Option (List Char × List Char)
  | '[' :: c :: cs =>
    if isTagStart c then (tagRest? cs).map fun (inside, rest) => (c :: inside, rest) else none
  | _ => none

inductive Part
  | text (cs : List Char)
  | tag (escapes : Nat) (inside : List Char)
  deriving DecidableEq

/-- The parts of a message. `plain` holds the text before, last character first, and `skip`
counts the characters that belong to a tag which has been taken. -/
def partsFrom (plain : List Char) : (skip : Nat) → List Char → List Part
  | _, [] => if plain.isEmpty then [] else [.text plain.reverse]
  | skip + 1, _ :: cs => partsFrom plain skip cs
  | 0, c :: cs =>
    let escapes := ((c :: cs).takeWhile (· == '\\')).length
    match tag? ((c :: cs).drop escapes) with
    | some (inside, _) =>
      (if plain.isEmpty then [] else [.text plain.reverse]) ++
        .tag escapes inside :: partsFrom [] (escapes + inside.length + 1) cs
    | none => partsFrom (c :: plain) 0 cs

def parts (cs : List Char) : List Part := partsFrom [] 0 cs

def escape (s : String) : String :=
  let cs := (parts s.toList).flatMap fun
    | .text cs => cs
    | .tag escapes inside => List.replicate (2 * escapes + 1) '\\' ++ '[' :: inside ++ [']']
  let tail := cs.reverse.takeWhile (· == '\\')
  .ofList (if tail.length = 1 then cs ++ ['\\'] else cs)

def unescapeBrackets : List Char → List Char
  | [] => []
  | '\\' :: '[' :: cs => '[' :: unescapeBrackets cs
  | c :: cs => c :: unescapeBrackets cs

def tagName (inside : List Char) : List Char := inside.takeWhile (· != '=')

/-- The open tags after a tag: a closing tag closes the last one of its name, or the last one
when it has no name. -/
def afterTag (openTags : List String) (inside : List Char) : Except Fault (List String) :=
  match tagName inside with
  | '/' :: name =>
    if name.all isBlank then
      match openTags with
      | _ :: rest => .ok rest
      | [] => .error ⟨.ofList inside⟩
    else if openTags.contains (normalName name) then .ok (openTags.erase (normalName name))
    else .error ⟨.ofList inside⟩
  | name => .ok (normalName name :: openTags)

def plainParts (openTags : List String) : List Part → Except Fault (List Char)
  | [] => .ok []
  | .text cs :: ps => (plainParts openTags ps).map (unescapeBrackets cs ++ ·)
  | .tag escapes inside :: ps =>
    let kept := List.replicate (escapes / 2) '\\'
    if escapes % 2 = 1 then
      (plainParts openTags ps).map (kept ++ '[' :: inside ++ ']' :: ·)
    else do
      let openTags ← afterTag openTags inside
      let rest ← plainParts openTags ps
      return kept ++ rest

def plain (s : String) : Except Fault String :=
  if s.toList.contains '[' then (plainParts [] (parts s.toList)).map .ofList else .ok s

end AnswerSetLearning.Markup
