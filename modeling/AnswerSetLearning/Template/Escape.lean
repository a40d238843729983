import AnswerSetLearning.Template.Fault

namespace AnswerSetLearning.Template

def digitValue? (base : Nat) (c : Char) : Option Nat :=
  let value :=
    if isAsciiDigit c then c.toNat - '0'.toNat
    else if 'a' ≤ c && c ≤ 'f' then c.toNat - 'a'.toNat + 10
    else if 'A' ≤ c && c ≤ 'F' then c.toNat - 'A'.toNat + 10
    else base
  if value < base then some value else none

def numeral? (base : Nat) (cs : List Char) : Option Nat :=
  cs.foldlM (fun n c => (digitValue? base c).map (base * n + ·)) 0

def simpleEscape? : Char → Option Char
  | 'n' => some '\n'
  | 't' => some '\t'
  | 'r' => some '\r'
  | 'a' => some '\x07'
  | 'b' => some '\x08'
  | 'f' => some '\x0c'
  | 'v' => some '\x0b'
  | '\\' => some '\\'
  | '\'' => some '\''
  | '"' => some '"'
  | _ => none

/-- An escape with the code point of a character: after the letter come as many digits. Half of a
surrogate pair is no character. -/
def codeEscape (letter : Char) (count : Nat) (cs : List Char) :
    Except Problem (List Char × Nat) :=
  match if (cs.take count).length = count then numeral? 16 (cs.take count) else none with
  | none => .error (.fault (.truncatedEscape letter count))
  | some n =>
    if 0x10FFFF < n then .error (.fault .illegalCharacter)
    else if 0xD800 ≤ n && n < 0xE000 then .error .beyond
    else .ok ([Char.ofNat n], count + 1)

def nameEscape : List Char → Problem
  | '\x7b' :: cs =>
    if cs.contains '\x7d' && cs.head? ≠ some '\x7d' then .beyond else .fault .malformedNameEscape
  | _ => .fault .malformedNameEscape

def escaped : List Char → Except Problem (List Char × Nat)
  | [] => .ok (['\\'], 0)
  | '\n' :: _ => .ok ([], 1)
  | 'x' :: cs => codeEscape 'x' 2 cs
  | 'u' :: cs => codeEscape 'u' 4 cs
  | 'U' :: cs => codeEscape 'U' 8 cs
  | 'N' :: cs => .error (nameEscape cs)
  | c :: cs =>
    let octal := ((c :: cs).take 3).takeWhile fun c => (digitValue? 8 c).isSome
    if octal.isEmpty then
      match simpleEscape? c with
      | some e => .ok ([e], 1)
      | none =>
        .ok ('\\' :: if c.toNat < 0x80 then [c] else (codeText c).toList, 1)
    else .ok ([Char.ofNat ((numeral? 8 octal).getD 0)], octal.length)

/-- The text a string constant stands for; `skip` counts the characters of an escape that has
been read. -/
def unescapeFrom : (skip : Nat) → List Char → Except Problem (List Char)
  | _, [] => .ok []
  | skip + 1, _ :: cs => unescapeFrom skip cs
  | 0, '\\' :: cs => do
    let (s, skip) ← escaped cs
    let rest ← unescapeFrom skip cs
    return s ++ rest
  | 0, c :: cs => (unescapeFrom 0 cs).map (c :: ·)

def unescape (cs : List Char) : Except Problem (List Char) := unescapeFrom 0 cs

end AnswerSetLearning.Template
