import AnswerSetLearning.Text.Lines

namespace AnswerSetLearning.Solver

/-- Numbers are 32 bits wide: an integer counts as the number from `-2147483648` to `2147483647`
that differs from it by a multiple of `4294967296`. -/
def inRange (n : Int) : Int := n.bmod 4294967296

/-- A constant has an opposite, which is another value and is written with a minus sign. A
function is applied to one argument after another; what is built up from the empty tuple is a
tuple. -/
inductive Term
  | infimum
  | number (n : Int)
  | constant (name : String)
  | opposite (name : String)
  | quoted (s : String)
  | tuple
  | apply (f a : Term)
  | supremum
  deriving DecidableEq

namespace Term

def escape (c : Char) : List Char :=
  match c with
  | '\\' => ['\\', '\\']
  | '\n' => ['\\', 'n']
  | '"' => ['\\', '"']
  | c => [c]

/-- The text of a function with the given arguments. Only a tuple has no name; a comma tells a
tuple of one value from the value. -/
def applicationText (name : String) (args : List String) : String :=
  match args with
  | [] => if name = "" then "()" else name
  | [arg] => name ++ "(" ++ arg ++ if name = "" then ",)" else ")"
  | args => name ++ "(" ++ joinWith "," args ++ ")"

def spine : Term → String × List String
  | infimum => ("#inf", [])
  | number n => (intText n, [])
  | constant name => (name, [])
  | opposite name => ("-" ++ name, [])
  | quoted s => ("\"" ++ .ofList (s.toList.flatMap escape) ++ "\"", [])
  | tuple => ("", [])
  | apply f a => (f.spine.1, f.spine.2 ++ [applicationText a.spine.1 a.spine.2])
  | supremum => ("#sup", [])

def text (t : Term) : String := applicationText t.spine.1 t.spine.2

def rank : Term → Nat
  | infimum => 0
  | number _ => 1
  | constant _ => 2
  | opposite _ => 3
  | quoted _ => 4
  | tuple => 5
  | apply .. => 6
  | supremum => 7

def root : Term → Term
  | apply f _ => f.root
  | t => t

def arity : Term → Nat
  | apply f _ => f.arity + 1
  | _ => 0

def isOpposite : Term → Bool
  | opposite _ => true
  | _ => false

def compareFunctions (s t : Term) : Ordering :=
  ((compare s.root.isOpposite t.root.isOpposite).then (compare s.arity t.arity)).then
    (compare s.spine.1 t.spine.1)

/-- Terms of different kinds are ordered by kind, numbers by value, constants and texts by
character, and functions by what they are and then by their arguments from left to right. -/
def order : Term → Term → Ordering
  | number m, number n => compare m n
  | constant a, constant b => compare a b
  | opposite a, opposite b => compare a b
  | quoted a, quoted b => compare a b
  | apply f a, apply g b =>
    ((compareFunctions (apply f a) (apply g b)).then (f.order g)).then (a.order b)
  | s, t => compare s.rank t.rank

instance : LT Term := ⟨fun s t => s.order t = .lt⟩

instance : DecidableLT Term := fun s t => inferInstanceAs (Decidable (s.order t = .lt))

/-- Numbers and functions that have a name change their sign. -/
def neg? : Term → Option Term
  | number n => some (number (inRange (-n)))
  | constant name => some (opposite name)
  | opposite name => some (constant name)
  | apply f a => f.neg?.map (apply · a)
  | _ => none

def args : Term → List Term
  | apply f a => f.args ++ [a]
  | _ => []

end Term

end AnswerSetLearning.Solver
