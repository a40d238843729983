import AnswerSetLearning.Proofs.Reader.Pieces

namespace AnswerSetLearning

theorem piece?_comment {text cs : List Char} (htext : ∀ c ∈ text, isLineEnd c = false)
    (hcs : ∀ c ∈ cs.head?, isLineEnd c = true) :
    piece? ('%' :: (text ++ cs)) = some (.gap (1 + text.length)) := by
  have hword : (text ++ cs).takeWhile (!isLineEnd ·) = text := by
    rw [List.takeWhile_append_of_pos (by simpa using htext)]
    cases cs with
    | nil => simp
    | cons c cs => simp [hcs c rfl]
  rw [piece?, hword]

inductive Spells : List Char → List Lexeme → Prop
  | done : Spells [] []
  | gap {cs xs n} (hp : piece? cs = some (.gap n)) (h : Spells (cs.drop n) xs) : Spells cs xs
  | lexeme {cs xs x n} (hp : piece? cs = some (.lexeme x n)) (h : Spells (cs.drop n) xs) :
    Spells cs (x :: xs)

namespace Spells

theorem tokensFrom_eq {cs : List Char} {xs : List Lexeme} (h : Spells cs xs) (o : Nat) :
    ∃ ts, tokensFrom o 0 cs = .ok ts ∧ ts.map Token.lexeme = xs := by
  induction h generalizing o with
  | done => exact ⟨[], rfl, rfl⟩
  | @gap cs xs n hp h ih =>
    obtain ⟨ts, hts, rfl⟩ := ih (o + n)
    exact ⟨ts, by rw [tokensFrom_of_piece? hp]; exact hts, rfl⟩
  | @lexeme cs xs x n hp h ih =>
    obtain ⟨ts, hts, rfl⟩ := ih (o + n)
    refine ⟨⟨x, o⟩ :: ts, ?_, rfl⟩
    rw [tokensFrom_of_piece? hp]
    simp only [Piece.lexeme, hts]
    rfl

theorem blank {c : Char} {cs : List Char} {xs : List Lexeme} (hc : isBlank c = true)
    (h : Spells cs xs) : Spells (c :: cs) xs := by
  have hdrop (cs : List Char) : cs.drop (cs.takeWhile isBlank).length = cs.dropWhile isBlank :=
    calc cs.drop (cs.takeWhile isBlank).length
      _ = (cs.takeWhile isBlank ++ cs.dropWhile isBlank).drop (cs.takeWhile isBlank).length := by
        rw [List.takeWhile_append_dropWhile]
      _ = cs.dropWhile isBlank := List.drop_left
  refine gap (piece?_of_isBlank hc) ?_
  rw [Nat.succ_eq_add_one, List.drop_succ_cons, hdrop]
  -- blanks that come after it belong to the same gap
  cases cs with
  | nil => exact h
  | cons d ds =>
    by_cases hd : isBlank d = true
    · rw [List.dropWhile_cons_of_pos hd]
      cases h with
      | gap hp h =>
        cases (piece?_of_isBlank hd).symm.trans hp
        rwa [Nat.succ_eq_add_one, List.drop_succ_cons, hdrop] at h
      | lexeme hp h => cases (piece?_of_isBlank hd).symm.trans hp
    · rwa [List.dropWhile_cons_of_neg hd]

theorem comment {text cs : List Char} {xs : List Lexeme} (htext : ∀ c ∈ text, isLineEnd c = false)
    (hcs : ∀ c ∈ cs.head?, isLineEnd c = true) (h : Spells cs xs) :
    Spells ('%' :: (text ++ cs)) xs := by
  refine gap (piece?_comment htext hcs) ?_
  rwa [Nat.add_comm, List.drop_succ_cons, List.drop_left]

end Spells

def Lexeme.Separable (x : Lexeme) : Prop := ∀ d, Ends d → x.ReadBefore d

theorem Lexeme.Separable.readable {x : Lexeme} (h : x.Separable) : x.Readable :=
  h '\n' ends_lineFeed

theorem Lexeme.Readable.separable {x : Lexeme} (h : x.Readable) : x.Separable :=
  fun _ hd => readBefore_of_piece? hd (h [])

theorem Lexeme.Separable.spells {x : Lexeme} {d : Char} {cs : List Char} {xs : List Lexeme}
    (hx : x.Separable) (hd : Ends d) (h : Spells (d :: cs) xs) :
    Spells (x.text.toList ++ d :: cs) (x :: xs) :=
  .lexeme (hx d hd cs) (by rwa [List.drop_left])

inductive IsLayout : List Char → Prop
  | nil : IsLayout []
  | blank {c : Char} {cs : List Char} (hc : isBlank c = true) (h : IsLayout cs) :
    IsLayout (c :: cs)
  | comment {text cs : List Char} {c : Char} (htext : ∀ d ∈ text, isLineEnd d = false)
    (hc : isLineEnd c = true) (h : IsLayout cs) : IsLayout ('%' :: (text ++ c :: cs))

theorem isBlank_of_isLineEnd {c : Char} (hc : isLineEnd c = true) : isBlank c = true := by
  rcases (by simpa [isLineEnd] using hc : c = '\n' ∨ c = '\r') with rfl | rfl <;> decide

theorem not_isBlank_of_isNameChar {c : Char} (hc : isNameChar c = true) : isBlank c = false := by
  have hrange : 39 ≤ c.toNat ∧ c.toNat ≤ 122 := by
    simp only [isNameChar, Bool.or_eq_true, beq_iff_eq] at hc
    rcases hc with (((hc | hc) | hc) | rfl) | rfl
    · have := isUpperLetter_iff.1 hc
      omega
    · have := isLowerLetter_iff.1 hc
      omega
    · have := isAsciiDigit_iff.1 hc
      omega
    · decide
    · decide
  rw [← Bool.not_eq_true]
  simp only [isBlank, Bool.or_eq_true, Bool.and_eq_true, decide_eq_true_eq, beq_iff_eq]
  omega

theorem not_isBlank_of_isDecimalDigit {c : Char} (hc : isDecimalDigit c = true) :
    isBlank c = false := by
  have hruns : ∀ first ∈ decimalZeros, ∀ k < 10, isBlank (.ofNat (first + k)) = false := by
    decide +kernel
  simp only [isDecimalDigit, List.any_eq_true, Bool.and_eq_true, decide_eq_true_eq] at hc
  obtain ⟨first, hfirst, hle, hlt⟩ := hc
  have hc := hruns first hfirst (c.toNat - first) (by omega)
  rwa [Nat.add_sub_cancel' hle, Char.ofNat_toNat] at hc

theorem ends_of_isBlank {c : Char} (hc : isBlank c = true) : Ends c := by
  have hne {p : Char → Bool} (hp : p c = true → isBlank c = false) : p c = false := by
    cases hpc : p c with
    | false => rfl
    | true => exact hc.symm.trans (hp hpc)
  refine ⟨hne not_isBlank_of_isNameChar, hne not_isBlank_of_isDecimalDigit, ?_, ?_⟩ <;>
    · rintro rfl
      exact absurd hc (by decide)

theorem ends_percent : Ends '%' := ⟨by decide, by decide, by decide, by decide⟩

namespace IsLayout

theorem exists_cons {cs : List Char} (h : IsLayout cs) (hne : cs ≠ []) :
    ∃ d rest, cs = d :: rest ∧ Ends d := by
  cases h with
  | nil => exact absurd rfl hne
  | blank hc h => exact ⟨_, _, rfl, ends_of_isBlank hc⟩
  | comment htext hc h => exact ⟨_, _, rfl, ends_percent⟩

theorem spells {gap cs : List Char} {xs : List Lexeme} (h : IsLayout gap) (hcs : Spells cs xs) :
    Spells (gap ++ cs) xs := by
  induction h with
  | nil => exact hcs
  | blank hc h ih => exact ih.blank hc
  | @comment text rest c htext hc h ih =>
    have hend : ∀ d ∈ (c :: (rest ++ cs)).head?, isLineEnd d = true := by simpa using hc
    simpa using Spells.comment htext hend (ih.blank (isBlank_of_isLineEnd hc))

end IsLayout

/-- The lexemes with blanks or comments before the first one, between neighbours and after the last
one. The text may end in a comment that has no end of line. -/
inductive LaidOut : List Lexeme → List Char → Prop
  | last {gap : List Char} (hgap : IsLayout gap) (hne : gap ≠ []) : LaidOut [] gap
  | lastComment {gap text : List Char} (hgap : IsLayout gap) (hne : gap ≠ [])
    (htext : ∀ c ∈ text, isLineEnd c = false) : LaidOut [] (gap ++ '%' :: text)
  | cons {gap cs : List Char} {x : Lexeme} {xs : List Lexeme} (hgap : IsLayout gap)
    (hne : gap ≠ []) (h : LaidOut xs cs) : LaidOut (x :: xs) (gap ++ (x.text.toList ++ cs))

namespace LaidOut

variable {xs : List Lexeme} {cs : List Char}

theorem exists_cons (h : LaidOut xs cs) : ∃ d rest, cs = d :: rest ∧ Ends d := by
  have hgap {gap : List Char} (hgap : IsLayout gap) (hne : gap ≠ []) (cs : List Char) :
      ∃ d rest, gap ++ cs = d :: rest ∧ Ends d := by
    obtain ⟨d, rest, rfl, hd⟩ := hgap.exists_cons hne
    exact ⟨d, rest ++ cs, rfl, hd⟩
  cases h with
  | last h hne => exact h.exists_cons hne
  | lastComment h hne => exact hgap h hne _
  | cons h hne => exact hgap h hne _

theorem spells (h : LaidOut xs cs) (hxs : ∀ x ∈ xs, x.Separable) : Spells cs xs := by
  induction h with
  | last hgap => simpa using hgap.spells .done
  | lastComment hgap hne htext =>
    exact hgap.spells (by simpa using Spells.comment htext (by simp) .done)
  | @cons gap cs x xs hgap hne h ih =>
    obtain ⟨hx, hxs⟩ := List.forall_mem_cons.1 hxs
    obtain ⟨d, rest, rfl, hd⟩ := h.exists_cons
    exact hgap.spells (hx.spells hd (ih hxs))

theorem exists_tokenize (h : LaidOut xs cs) (hxs : ∀ x ∈ xs, x.Separable) :
    ∃ ts, tokenize cs = .ok ts ∧ ts.map Token.lexeme = xs :=
  (h.spells hxs).tokensFrom_eq 0

end LaidOut

def spaced (gap : List Char) : List Lexeme → List Char
  | [] => gap
  | x :: xs => gap ++ (x.text.toList ++ spaced gap xs)

theorem laidOut_spaced {gap : List Char} (hgap : IsLayout gap) (hne : gap ≠ []) (xs : List Lexeme) :
    LaidOut xs (spaced gap xs) := by
  induction xs with
  | nil => exact .last hgap hne
  | cons x xs ih => exact .cons hgap hne ih

theorem exists_tokenize_lexemes {xs : List Lexeme} (h : ∀ x ∈ xs, x.Readable) :
    ∃ (text : String) (ts : List Token), tokenize text.toList = .ok ts ∧
      ts.map Token.lexeme = xs := by
  have hgap : IsLayout ['\n'] := .blank (by decide) .nil
  have hlaid := laidOut_spaced hgap (by simp) xs
  obtain ⟨ts, hts, hlexemes⟩ := hlaid.exists_tokenize fun x hx => (h x hx).separable
  exact ⟨.ofList (spaced ['\n'] xs), ts, by rwa [String.toList_ofList], hlexemes⟩

end AnswerSetLearning
