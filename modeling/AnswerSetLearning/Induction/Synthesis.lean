import AnswerSetLearning.Induction.LearningTask
import AnswerSetLearning.Induction.Subsets
import AnswerSetLearning.Task

/-!
# Synthesis of training examples

An example with input `I` and outputs `O` becomes, relative to a universe `U`:

* without outputs, one negative example that has to derive nothing;
* a positive example for each output `s`, which derives `s` and nothing else of `U`;
* a negative example for each literal of `U` outside all outputs;
* negative examples against the spurious models: sets of literals of the outputs that are
  neither contained in an output nor contain one.
-/

namespace AnswerSetLearning

/-- Parts for a builder, up to the first number that is not registered. -/
structure Script where
  pushes : List Push
  fault : Option InvalidLiteral
  deriving DecidableEq

namespace Script

def done : Script := ⟨[], none⟩

def of (pushes : List Push) : Script := ⟨pushes, none⟩

def stop (e : InvalidLiteral) : Script := ⟨[], some e⟩

def andThen (s : Script) (next : Unit → Script) : Script :=
  match s.fault with
  | some e => ⟨s.pushes, some e⟩
  | none =>
    let t := next ()
    ⟨s.pushes ++ t.pushes, t.fault⟩

def concat : List Script → Script
  | [] => done
  | s :: ss => s.andThen fun _ => concat ss

def resolving (registry : Registry) (lits : List Lit) (next : List Literal → Script) : Script :=
  match registry.resolve lits with
  | .ok literals => next literals
  | .error e => stop e

end Script

namespace Example

def outputLiterals (e : Example) : LitSet := .ofList (e.outputs.flatMap SortedSet.items)

def targets (e : Example) : List LitSet := e.outputs.map (·.diff e.input)

def added (e : Example) : LitSet := e.outputLiterals.diff e.input

/-- The candidates for spurious models, the small ones first: sets of added literals, neither
empty nor full, that are neither contained in a target nor contain one. -/
def candidates (e : Example) : List LitSet :=
  let elements := e.added.items
  let sets := (List.range' 1 (elements.length - 1)).flatMap fun size =>
    (subsetsOfSize size elements).map SortedSet.ofList
  sets.filter fun s => !e.targets.any fun t => t.isSubset s || t.isSuperset s

end Example

/-- Groups of candidates: a leader, which contains no leader before it, and the later sets that
contain it but none of the leaders before it. -/
def groupsFrom (leaders : List LitSet) : List LitSet → List (LitSet × List LitSet)
  | [] => []
  | a :: rest =>
    if leaders.any (·.isSubset a) then groupsFrom leaders rest
    else
      (a, rest.filter fun b => a.isSubset b && !leaders.any (·.isSubset b)) ::
        groupsFrom (leaders ++ [a]) rest

def groups (candidates : List LitSet) : List (LitSet × List LitSet) := groupsFrom [] candidates

/-- The largest sets of a group, the last first; the leader itself when it is alone. -/
def largest (leader : LitSet) (others : List LitSet) : List LitSet :=
  match others.reverse with
  | [] => [leader]
  | b :: bs => b :: bs.takeWhile fun c => b.size ≤ c.size

section Synthesis

variable (registry : Registry) (univ : LitSet) (e : Example)

/-- Excludes the models of a group: they contain the leader, and they are contained in one of
the largest sets. -/
def excludeGroup (ctx : List Literal) (group : LitSet × List LitSet) : Script :=
  let (leader, others) := group
  .resolving registry (leader.union e.input).items fun incl =>
    .concat ((largest leader others).map fun b =>
      .resolving registry (univ.diff (e.input.union b)).items fun excl =>
        .of [.negative ⟨incl, excl, ctx⟩])

def excludeSpurious (ctx : List Literal) : Script :=
  .concat ((groups e.candidates).map (excludeGroup registry univ e ctx))

def acceptOutput (ctx : List Literal) (output : LitSet) : Script :=
  .resolving registry output.items fun incl =>
    .resolving registry (univ.diff output).items fun excl =>
      .of [.positive ⟨incl, excl, ctx⟩]

def excludeLiteral (ctx : List Literal) (lit : Lit) : Script :=
  .resolving registry [lit] fun incl => .of [.negative ⟨incl, [], ctx⟩]

def trainingScript (ctx : List Literal) : Script :=
  if e.outputs.isEmpty then .of [.negative ⟨[], [], ctx⟩]
  else
    (Script.concat (e.outputs.map (acceptOutput registry univ ctx))).andThen fun _ =>
    (Script.concat ((univ.diff e.outputLiterals).items.map
      (excludeLiteral registry ctx))).andThen fun _ =>
    excludeSpurious registry univ e ctx

/-- The added literals are words for heads and bodies, the literals of the context for positive
body atoms. -/
def vocabularyScript (ctx : List Literal) : Script :=
  .resolving registry e.added.items fun added =>
    .of (added.flatMap (fun l => [.head l, .generalBody l]) ++ ctx.map .positiveBody)

def exampleScript : Script :=
  .resolving registry e.input.items fun ctx =>
    (trainingScript registry univ e ctx).andThen fun _ => vocabularyScript registry e ctx

end Synthesis

def taskScript (t : Task) (univ : LitSet) : Script :=
  (Script.of (t.background.map .background)).andThen fun _ =>
    .concat (t.examples.map (exampleScript t.registry univ))

def synthesize (t : Task) (univ : LitSet) : Except InvalidLiteral LearningTask :=
  let script := taskScript t univ
  match script.fault with
  | some e => .error e
  | none => .ok (Builder.empty.pushAll script.pushes).build

end AnswerSetLearning
