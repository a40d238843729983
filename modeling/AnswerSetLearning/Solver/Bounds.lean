import AnswerSetLearning.Solver.Pattern

namespace AnswerSetLearning.Solver

/-- What a comparison says of numbers: `plus - minus` is at least `least`, where a variable that
is left out counts as zero. -/
structure Inequality where
  plus : Option String
  minus : Option String
  least : Int
  deriving DecidableEq

namespace Inequality

def ofLess? (left right : Arg) : Option Inequality :=
  match left, right with
  | .value (.number m), .value (.number n) => some ⟨none, none, m + 1 - n⟩
  | .value (.number m), .var y => some ⟨some y, none, m + 1⟩
  | .var x, .value (.number n) => some ⟨none, some x, 1 - n⟩
  | .var x, .var y => some (if x = y then ⟨none, none, 1⟩ else ⟨some y, some x, 1⟩)
  | _, _ => none

def ofTest? (t : Test) : Option Inequality :=
  match t.relation with
  | .unequal => none
  | .greater => ofLess? t.right t.left
  | .less => ofLess? t.left t.right

end Inequality

structure Interval where
  lower : Option Int
  upper : Option Int
  deriving DecidableEq

namespace Interval

def unbounded : Interval := ⟨none, none⟩

def empty : Interval := ⟨some 0, some (-1)⟩

def elements? (i : Interval) : Option (List Int) :=
  match i.lower, i.upper with
  | some m, some n => some ((List.range (n + 1 - m).toNat).map fun k => m + Int.ofNat k)
  | _, _ => none

end Interval

abbrev Bounds := List (String × Interval)

namespace Bounds

def interval (b : Bounds) (x : String) : Interval := (b.lookup x).getD .unbounded

def set (b : Bounds) (x : String) (i : Interval) : Bounds :=
  if (b.lookup x).isSome then b.map fun (y, j) => (y, if y = x then i else j)
  else b ++ [(x, i)]

structure State where
  bounds : Bounds
  moved : Bool

namespace State

def atLeast (s : State) (n : Int) : Option String → State
  | none => s
  | some x =>
    let i := s.bounds.interval x
    if i.lower.any (n ≤ ·) then s else ⟨s.bounds.set x { i with lower := some n }, true⟩

def atMost (s : State) (n : Int) : Option String → State
  | none => s
  | some x =>
    let i := s.bounds.interval x
    if i.upper.any (· ≤ n) then s else ⟨s.bounds.set x { i with upper := some n }, true⟩

/-- If the bounds rule an inequality out, there is no value for any variable that has a bound. -/
def clear (s : State) : State := { s with bounds := s.bounds.map fun (x, _) => (x, .empty) }

def apply (s : State) (q : Inequality) : State :=
  let highest := match q.plus with
    | some x => (s.bounds.interval x).upper
    | none => some 0
  let lowest := match q.minus with
    | some y => (s.bounds.interval y).lower
    | none => some 0
  match highest, lowest with
  | some m, some n =>
    if m - n < q.least then s.clear
    else (s.atLeast (q.least + n) q.plus).atMost (m - q.least) q.minus
  | some m, none => s.atMost (m - q.least) q.minus
  | none, some n => s.atLeast (q.least + n) q.plus
  | none, none => s

end State

def tighten (qs : List Inequality) : (fuel : Nat) → Bounds → Bounds
  | 0, b => b
  | fuel + 1, b =>
    let s := qs.foldl State.apply ⟨b, false⟩
    if s.moved then tighten qs fuel s.bounds else s.bounds

/-- The bounds that follow from inequalities. Each time a bound moves by one at least, and a bound
that moves further than all differences together moves on forever. -/
def ofInequalities (qs : List Inequality) : Bounds :=
  let size := qs.foldl (fun n q => n + q.least.natAbs + 1) 1
  tighten qs (4 * (qs.length + 1) * size) []

end Bounds

/-- The variables that comparisons bound on both sides, with their values. -/
def rangesOf (tests : List Test) : List (String × List Int) :=
  (Bounds.ofInequalities (tests.filterMap Inequality.ofTest?)).filterMap fun (x, i) =>
    i.elements?.map fun ns => (x, ns)

end AnswerSetLearning.Solver
