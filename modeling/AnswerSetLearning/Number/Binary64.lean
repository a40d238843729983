import AnswerSetLearning.Number.Decimal

namespace AnswerSetLearning

/-- What the bits of a double stand for: `significand * 2 ^ exponent`, an infinity, or no
number. -/
inductive Binary64
  | finite (negative : Bool) (significand : Nat) (exponent : Int)
  | infinite (negative : Bool)
  | undefined

def Binary64.ofBits (bits : Nat) : Binary64 :=
  let negative : Bool := decide (1 <<< 63 ≤ bits)
  let exponent : Nat := (bits >>> 52) % (1 <<< 11)
  let fraction : Nat := bits % (1 <<< 52)
  if exponent = 2047 then if fraction = 0 then .infinite negative else .undefined
  else if exponent = 0 then .finite negative fraction (-1074)
  else .finite negative ((1 <<< 52) + fraction) ((exponent : Int) - 1075)

/-- The exponent `e` for which `2 ^ 52 ≤ num / den / 2 ^ e < 2 ^ 53`, or -1074 when that is
smaller. -/
def ulpExponent (num den : Nat) : Int :=
  let guess : Int := (num.log2 : Int) - den.log2 - 52
  let fits : Bool :=
    if 0 ≤ guess then den <<< (guess.toNat + 52) ≤ num
    else den <<< 52 ≤ num <<< (-guess).toNat
  max (if fits then guess else guess - 1) (-1074)

def infinityBits : Nat := 2047 <<< 52

/-- The bits of the double nearest to `num / den`; infinity's when it is too large. -/
def nearestBits (num den : Nat) : Nat :=
  if num = 0 then 0
  else
    let e := ulpExponent num den
    let significand :=
      if 0 ≤ e then divRound num (den <<< e.toNat) else divRound (num <<< (-e).toNat) den
    min (((e + 1074).toNat <<< 52) + significand) infinityBits

def floatOfBits (bits : Nat) : Float := Float.ofBits (UInt64.ofNat bits)

def nearestFloat (num den : Nat) : Float := floatOfBits (nearestBits num den)

def Decimal.toFloat (d : Decimal) : Float := nearestFloat d.digits (Nat.pow 10 d.places)

/-- The double nearest to the quotient of an integer, or nothing when it is too large. -/
def intQuotient? (n : Int) (den : Nat) : Option Float :=
  let bits := nearestBits n.natAbs den
  if infinityBits ≤ bits then none
  else some (floatOfBits (if n < 0 then (1 <<< 63) + bits else bits))

def fixedFloat (places : Nat) (x : Float) : String :=
  match Binary64.ofBits x.toBits.toNat with
  | .undefined => "nan"
  | .infinite negative => (if negative then "-" else "") ++ "inf"
  | .finite negative significand exponent =>
    let scaled := significand * Nat.pow 10 places
    let rounded :=
      if 0 ≤ exponent then scaled <<< exponent.toNat
      else divRound scaled (1 <<< (-exponent).toNat)
    (if negative then "-" else "") ++ fixedText places rounded

end AnswerSetLearning
