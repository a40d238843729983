import AnswerSetLearning.Rule

namespace AnswerSetLearning

/-- In the context `ctx` a theory has to derive `incl` and must not derive `excl`. -/
structure TrainingExample where
  incl : List Literal
  excl : List Literal
  ctx : List Literal
  deriving DecidableEq

namespace TrainingExample

def parts (e : TrainingExample) : List (List Literal) := [e.incl, e.excl, e.ctx]

instance : LT TrainingExample := ⟨fun a b => a.parts < b.parts⟩

instance : DecidableLT TrainingExample := fun a b =>
  inferInstanceAs (Decidable (a.parts < b.parts))

end TrainingExample

structure SearchSpace where
  positiveBody : List Literal
  generalBody : List Literal
  head : List Literal
  deriving DecidableEq

structure LearningTask where
  positives : List TrainingExample
  negatives : List TrainingExample
  space : SearchSpace
  background : List Rule
  deriving DecidableEq

inductive Push
  | positive (e : TrainingExample)
  | negative (e : TrainingExample)
  | positiveBody (l : Literal)
  | generalBody (l : Literal)
  | head (l : Literal)
  | background (r : Rule)
  deriving DecidableEq

structure Builder where
  positives : List TrainingExample
  negatives : List TrainingExample
  positiveBody : List Literal
  generalBody : List Literal
  head : List Literal
  background : List Rule
  deriving DecidableEq

namespace Builder

def empty : Builder := ⟨[], [], [], [], [], []⟩

def push (b : Builder) : Push → Builder
  | .positive e => { b with positives := b.positives ++ [e] }
  | .negative e => { b with negatives := b.negatives ++ [e] }
  | .positiveBody l => { b with positiveBody := b.positiveBody ++ [l] }
  | .generalBody l => { b with generalBody := b.generalBody ++ [l] }
  | .head l => { b with head := b.head ++ [l] }
  | .background r => { b with background := b.background ++ [r] }

def pushAll (b : Builder) (ps : List Push) : Builder := ps.foldl push b

def normalized [LT α] [DecidableLT α] [DecidableEq α] (l : List α) : List α :=
  (SortedSet.ofList l).items

/-- The task: everything in order and without repetitions but the background, which stays as it
came. -/
def build (b : Builder) : LearningTask where
  positives := normalized b.positives
  negatives := normalized b.negatives
  space :=
    { positiveBody := normalized b.positiveBody
      generalBody := normalized b.generalBody
      head := normalized b.head }
  background := b.background

end Builder

end AnswerSetLearning
