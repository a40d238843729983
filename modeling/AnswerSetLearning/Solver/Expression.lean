import AnswerSetLearning.Solver.Pattern

namespace AnswerSetLearning.Solver

inductive Operator
  | range
  | exclusive
  | or
  | and
  | plus
  | minus
  | times
  | quotient
  | remainder
  | power
  deriving DecidableEq

namespace Operator

def ofMark? : String → Option Operator
  | ".." => some range
  | "^" => some exclusive
  | "?" => some or
  | "&" => some and
  | "+" => some plus
  | "-" => some minus
  | "*" => some times
  | "/" => some quotient
  | "\\" => some remainder
  | "**" => some power
  | _ => none

def level : Operator → Nat
  | range => 1
  | exclusive => 2
  | or => 3
  | and => 4
  | plus | minus => 5
  | times | quotient | remainder => 6
  | power => 7

/-- How strongly the operators in the right operand bind at least. Powers group to the right, all
others to the left. -/
def rightLevel : Operator → Nat
  | power => 7
  | o => o.level + 1

def bitwise (f : Nat → Nat → Nat) (m n : Int) : Int :=
  inRange (f (m.emod 4294967296).toNat (n.emod 4294967296).toNat)

/-- A power by squaring; each step halves the exponent, so its number of binary digits is fuel
enough. -/
def powerOf (m : Int) : (fuel : Nat) → (exponent : Nat) → Int
  | 0, _ => 1
  | fuel + 1, n =>
    if n = 0 then 1
    else
      let half := powerOf m fuel (n / 2)
      inRange (half * half * if n % 2 = 0 then 1 else m)

/-- The results for two numbers. Only ranges have more than one; zero is no divisor. -/
def results (m n : Int) : Operator → List Int
  | range => (List.range (n + 1 - m).toNat).map fun k => m + Int.ofNat k
  | exclusive => [bitwise Nat.xor m n]
  | or => [bitwise Nat.lor m n]
  | and => [bitwise Nat.land m n]
  | plus => [inRange (m + n)]
  | minus => [inRange (m - n)]
  | times => [inRange (m * n)]
  | quotient => if n = 0 then [] else [inRange (m.tdiv n)]
  | remainder => if n = 0 then [] else [m.tmod n]
  | power =>
    if 0 ≤ n then [powerOf m 32 n.toNat]
    else if m = 0 then []
    else [0]

end Operator

inductive Expression
  | plain (a : Arg)
  | negation (e : Expression)
  | complement (e : Expression)
  | absolute (e : Expression)
  | operation (o : Operator) (left right : Expression)
  | apply (f a : Expression)
  | either (e f : Expression)
  deriving DecidableEq

namespace Arg

def mayBeNumber : Arg → Bool
  | value (.number _) => true
  | value _ => false
  | _ => true

def neg : Arg → List Arg
  | value t => t.neg?.toList.map value
  | _ => [anonymous]

def mapNumber (f : Int → Int) : Arg → List Arg
  | value (.number n) => [value (.number (inRange (f n)))]
  | value _ => []
  | _ => [anonymous]

def operate (o : Operator) : Arg → Arg → List Arg
  | value (.number m), value (.number n) => (o.results m n).map fun k => value (.number k)
  | a, b => if a.mayBeNumber && b.mayBeNumber then [anonymous] else []

def applyTo : Arg → Arg → Arg
  | value a, value f => value (.apply f a)
  | _, _ => anonymous

end Arg

namespace Expression

def values : Expression → List Arg
  | plain (.var _) => [.anonymous]
  | plain a => [a]
  | negation e => e.values.flatMap Arg.neg
  | complement e => e.values.flatMap (Arg.mapNumber fun n => -n - 1)
  | absolute e => e.values.flatMap (Arg.mapNumber fun n => Int.ofNat n.natAbs)
  | operation o e f => e.values.flatMap fun a => f.values.flatMap fun b => a.operate o b
  | apply e f => e.values.flatMap fun a => f.values.map fun b => b.applyTo a
  | either e f => e.values ++ f.values

/-- What stands in parentheses, after a function or alone. A single expression without a comma
after it is no tuple. -/
def ofItems? : (function : Option Expression) → (items : List Expression) → (comma : Bool) →
    Option Expression
  | some f, items, false => some (items.foldl apply f)
  | some _, _, true => none
  | none, [e], false => some e
  | none, items, _ => some (items.foldl apply (plain (.value .tuple)))

end Expression

end AnswerSetLearning.Solver
