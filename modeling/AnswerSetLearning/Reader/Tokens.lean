import AnswerSetLearning.Reader.Lexeme

namespace AnswerSetLearning

structure Token where
  lexeme : Lexeme
  offset : Nat
  deriving DecidableEq

/-- The tokens of a text whose first character has the given offset, or the offset at which no
piece starts. A piece is taken at its first character, and the `skip` others are passed over. -/
def tokensFrom (offset : Nat) : (skip : Nat) → List Char → Except Nat (List Token)
  | _, [] => .ok []
  | skip + 1, _ :: cs => tokensFrom (offset + 1) skip cs
  | 0, c :: cs =>
    match piece? (c :: cs) with
    | none => .error offset
    | some piece =>
      let rest := tokensFrom (offset + 1) (piece.size - 1) cs
      match piece.lexeme? with
      | none => rest
      | some lexeme => rest.map (⟨lexeme, offset⟩ :: ·)

def tokenize (cs : List Char) : Except Nat (List Token) := tokensFrom 0 0 cs

end AnswerSetLearning
