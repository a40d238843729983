namespace AnswerSetLearning

/-- The first `room` sublists of length `k`, in lexicographic order of the positions. Where not
enough elements are left nothing is tried. -/
def takeSubsets : (room k : Nat) → List α → List (List α)
  | room, 0, _ => [[]].take room
  | _, _ + 1, [] => []
  | room, k + 1, a :: l =>
    if room = 0 ∨ l.length < k then []
    else
      let taken := (takeSubsets room k l).map (a :: ·)
      taken ++ takeSubsets (room - taken.length) (k + 1) l

def subsetsOfSize : (k : Nat) → List α → List (List α)
  | 0, _ => [[]]
  | _ + 1, [] => []
  | k + 1, a :: l =>
    if l.length < k then [] else (subsetsOfSize k l).map (a :: ·) ++ subsetsOfSize (k + 1) l

/-- At most `room` sublists of length `k`; there are none of negative length. -/
def subsets (l : List α) (k : Int) (room : Option Nat) : List (List α) :=
  if k < 0 then []
  else match room with
    | some room => takeSubsets room k.toNat l
    | none => subsetsOfSize k.toNat l

end AnswerSetLearning
