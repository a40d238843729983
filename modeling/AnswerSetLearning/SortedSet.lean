namespace AnswerSetLearning

structure SortedSet (α : Type u) where
  items : List α
  deriving DecidableEq

namespace SortedSet

section Sorting

variable [LT α] [DecidableLT α]

def sortList (l : List α) : List α := l.mergeSort fun a b => decide (¬ b < a)

end Sorting

def dropRepeats [DecidableEq α] : List α → List α
  | [] => []
  | [a] => [a]
  | a :: b :: l => if a = b then dropRepeats (b :: l) else a :: dropRepeats (b :: l)

def firstOccurrences [DecidableEq α] : List α → List α
  | [] => []
  | a :: l => a :: (firstOccurrences l).filter (· ≠ a)

variable [LT α] [DecidableLT α]

/-- What to make of two lists read side by side, the smaller head first: of what is left of one
when the other ends, of a head that only the first or only the second list has, and of a head
that both have. -/
structure Merge (α : Type u) (β : Type v) where
  firstRest : List α → β
  secondRest : List α → β
  first : α → β → β
  second : α → β → β
  both : α → β → β

namespace Merge

def step (m : Merge α β) (x : α) (a : List α) (next : List α → β) : List α → β
  | [] => m.firstRest (x :: a)
  | y :: b =>
    if x < y then m.first x (next (y :: b))
    else if y < x then m.second y (m.step x a next b)
    else m.both x (next b)

def run (m : Merge α β) : List α → List α → β
  | [] => m.secondRest
  | x :: a => m.step x a (m.run a)

@[simp] theorem run_nil (m : Merge α β) (b : List α) : m.run [] b = m.secondRest b := rfl

@[simp] theorem run_cons_nil (m : Merge α β) (x : α) (a : List α) :
    m.run (x :: a) [] = m.firstRest (x :: a) := rfl

theorem run_cons_cons (m : Merge α β) (x y : α) (a b : List α) :
    m.run (x :: a) (y :: b) =
      if x < y then m.first x (m.run a (y :: b))
      else if y < x then m.second y (m.run (x :: a) b)
      else m.both x (m.run a b) := rfl

def union : Merge α (List α) where
  firstRest := id
  secondRest := id
  first := .cons
  second := .cons
  both := .cons

def inter : Merge α (List α) where
  firstRest _ := []
  secondRest _ := []
  first _ l := l
  second _ l := l
  both := .cons

def diff : Merge α (List α) where
  firstRest := id
  secondRest _ := []
  first := .cons
  second _ l := l
  both _ l := l

def subset : Merge α Bool where
  firstRest := List.isEmpty
  secondRest _ := true
  first _ _ := false
  second _ found := found
  both _ found := found

def disjoint : Merge α Bool where
  firstRest _ := true
  secondRest _ := true
  first _ apart := apart
  second _ apart := apart
  both _ _ := false

end Merge

def ofList [DecidableEq α] (l : List α) : SortedSet α := ⟨dropRepeats (sortList l)⟩

def empty : SortedSet α := ⟨[]⟩

def rebuild [DecidableEq α] (s : SortedSet α) : SortedSet α := ofList s.items

def insert (s : SortedSet α) (a : α) : SortedSet α := ⟨s.items ++ [a]⟩

def size (s : SortedSet α) : Nat := s.items.length

def isEmpty (s : SortedSet α) : Bool := s.items.isEmpty

def contains [DecidableEq α] (s : SortedSet α) (a : α) : Bool := decide (a ∈ s.items)

def union (s t : SortedSet α) : SortedSet α := ⟨Merge.union.run s.items t.items⟩

def inter (s t : SortedSet α) : SortedSet α := ⟨Merge.inter.run s.items t.items⟩

def diff (s t : SortedSet α) : SortedSet α := ⟨Merge.diff.run s.items t.items⟩

/-- Whether every element of `s` is in `t`. A list longer than the other is none of its
subsets, without a look at the elements. -/
def isSubset (s t : SortedSet α) : Bool :=
  if t.size < s.size then false else Merge.subset.run s.items t.items

def isSuperset (s t : SortedSet α) : Bool := t.isSubset s

def isDisjoint (s t : SortedSet α) : Bool := Merge.disjoint.run s.items t.items

instance : LT (SortedSet α) := ⟨fun s t => s.items < t.items⟩

instance [DecidableEq α] : DecidableLT (SortedSet α) :=
  fun s t => inferInstanceAs (Decidable (s.items < t.items))

end SortedSet

end AnswerSetLearning
