import AnswerSetLearning.Text.Lines
import AnswerSetLearning.SortedSet

namespace AnswerSetLearning

/-- The number under which a literal is registered: 1, 2, 3 and so on. -/
abbrev Lit := Int

abbrev LitSet := SortedSet Lit

structure Literal where
  predicate : String
  args : List String
  deriving DecidableEq

namespace Literal

def text (l : Literal) : String :=
  match l.args with
  | [] => l.predicate
  | args => l.predicate ++ "(" ++ joinWith ", " args ++ ")"

instance : LT Literal :=
  ⟨fun a b => a.predicate < b.predicate ∨ a.predicate = b.predicate ∧ a.args < b.args⟩

instance : DecidableLT Literal := fun a b =>
  inferInstanceAs
    (Decidable (a.predicate < b.predicate ∨ a.predicate = b.predicate ∧ a.args < b.args))

end Literal

end AnswerSetLearning
