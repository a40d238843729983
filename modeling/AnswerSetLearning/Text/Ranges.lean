namespace AnswerSetLearning

/-- Whether a character is in one of the ranges; none of those after it can hold it. -/
def inRanges : List (Nat × Nat) → Char → Bool
  | [], _ => false
  | (first, last) :: ranges, c => first ≤ c.toNat && (c.toNat ≤ last || inRanges ranges c)

end AnswerSetLearning
