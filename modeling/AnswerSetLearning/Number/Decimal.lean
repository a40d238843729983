import AnswerSetLearning.Text.Lines

namespace AnswerSetLearning

/-- The number `digits / 10 ^ places`. -/
structure Decimal where
  digits : Nat
  places : Nat
  deriving DecidableEq

def Decimal.ofDigits (whole fraction : List Char) : Decimal :=
  ⟨digitsValue (whole ++ fraction), fraction.length⟩

/-- The quotient rounded to the nearest natural number, a tie to the even one. -/
def divRound (num den : Nat) : Nat :=
  let q := num / den
  let twice := 2 * (num % den)
  if twice < den then q
  else if den < twice then q + 1
  else if q % 2 = 0 then q else q + 1

def fixedText (places n : Nat) : String :=
  if places = 0 then Nat.repr n
  else
    let fraction := Nat.repr (n % Nat.pow 10 places)
    Nat.repr (n / Nat.pow 10 places) ++ "." ++
      .ofList (List.replicate (places - fraction.length) '0') ++ fraction

end AnswerSetLearning
