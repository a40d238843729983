import AnswerSetLearning.Text.Lines
import AnswerSetLearning.Text.Printable

namespace AnswerSetLearning

def hexDigits (width n : Nat) : String :=
  let digits := Nat.toDigits 16 n
  .ofList (List.replicate (width - digits.length) '0' ++ digits)

def codeText (c : Char) : String :=
  let n := c.toNat
  if n < 0x100 then "x" ++ hexDigits 2 n
  else if n < 0x10000 then "u" ++ hexDigits 4 n
  else "U" ++ hexDigits 8 n

def quotedChar (quote c : Char) : String :=
  if c = quote || c = '\\' then .ofList ['\\', c]
  else if c = '\n' then "\\n"
  else if c = '\r' then "\\r"
  else if c = '\t' then "\\t"
  else if !isPrintable c then "\\" ++ codeText c
  else .ofList [c]

def quoted (s : String) : String :=
  let quote := if s.toList.contains '\'' && !s.toList.contains '"' then '"' else '\''
  let inside := s.toList.map (quotedChar quote)
  .ofList [quote] ++ joinWith "" inside ++ .ofList [quote]

end AnswerSetLearning
