import AnswerSetLearning.Registry
import AnswerSetLearning.Rule

namespace AnswerSetLearning

/-- The facts of an input and the answer sets accepted for it. No outputs at all means that
nothing may follow from the input. -/
structure Example where
  input : LitSet
  outputs : List LitSet
  deriving DecidableEq

structure Task where
  registry : Registry
  background : List Rule
  examples : List Example
  deriving DecidableEq

namespace Task

def empty : Task := ⟨.empty, [], []⟩

def definiteRules (t : Task) : List Rule := t.background.filter Rule.isDefinite

def addRule (t : Task) (r : Rule) : Task := { t with background := t.background ++ [r] }

def addExample (t : Task) (e : Example) : Task := { t with examples := t.examples ++ [e] }

end Task

end AnswerSetLearning
