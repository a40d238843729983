import AnswerSetLearning.Proofs.Reader.Spelling

namespace AnswerSetLearning

/-- The pieces before the offset have been cut off, and the tokens are the lexemes among them. -/
inductive Cuts (cs : List Char) : Nat → List Token → Prop
  | start : Cuts cs 0 []
  | gap {o n : Nat} {ts : List Token} (h : Cuts cs o ts)
      (hp : piece? (cs.drop o) = some (.gap n)) : Cuts cs (o + n) ts
  | lexeme {o n : Nat} {ts : List Token} {x : Lexeme} (h : Cuts cs o ts)
      (hp : piece? (cs.drop o) = some (.lexeme x n)) : Cuts cs (o + n) (ts ++ [⟨x, o⟩])

/-- The cutting comes to the offset, where no piece starts although the text goes on. -/
def StuckAt (cs : List Char) (o : Nat) : Prop :=
  o < cs.length ∧ piece? (cs.drop o) = none ∧ ∃ ts, Cuts cs o ts

/-! ## Words -/

structure Piece.Covers (p : Piece) (word : List Char) : Prop where
  nonempty : word ≠ []
  size : p.size = word.length
  text : ∀ x, p.lexeme? = some x → x.text.toList = word

theorem Piece.covers_lexeme {x : Lexeme} {n : Nat} {word : List Char} (hx : x.text.toList = word)
    (hn : n = word.length) (h : word ≠ []) : (Piece.lexeme x n).Covers word :=
  ⟨h, hn, fun _ hy => Option.some.inj hy ▸ hx⟩

theorem namePiece?_covers {cs : List Char} {p : Piece} (h : namePiece? cs = some p) :
    ∃ word rest, cs = word ++ rest ∧ p.Covers word := by
  have hsplit := List.takeWhile_append_dropWhile (p := isUnderscore) (l := cs)
  -- a single underscore, with whatever comes after it
  have hunderscore (h : (if (cs.takeWhile isUnderscore).isEmpty then none
      else some (Piece.lexeme .anonymous 1)) = some p) :
      ∃ word rest, cs = word ++ rest ∧ p.Covers word := by
    cases hus : cs.takeWhile isUnderscore with
    | nil => simp [hus] at h
    | cons u us =>
      have hu : u = '_' := by
        have hmem : u ∈ cs.takeWhile isUnderscore := hus ▸ List.mem_cons_self
        simpa [isUnderscore] using List.mem_takeWhile_imp hmem
      rw [hus] at h hsplit
      cases h
      exact ⟨['_'], us ++ cs.dropWhile isUnderscore, by rw [← hu]; exact hsplit.symm,
        Piece.covers_lexeme rfl rfl (by simp)⟩
  unfold namePiece? at h
  split at h
  · next c rest hdrop =>
    have hword : cs = (cs.takeWhile isUnderscore ++ c :: rest.takeWhile isNameChar) ++
        rest.dropWhile isNameChar := by
      rw [List.append_assoc, List.cons_append, List.takeWhile_append_dropWhile, ← hdrop, hsplit]
    split at h
    · cases h
      exact ⟨_, _, hword, Piece.covers_lexeme (String.toList_ofList) rfl (by simp)⟩
    split at h
    · cases h
      exact ⟨_, _, hword, Piece.covers_lexeme (String.toList_ofList) rfl (by simp)⟩
    · exact hunderscore h
  · exact hunderscore h

theorem longPiece?_covers {cs : List Char} {p : Piece} (h : longPiece? cs = some p) :
    ∃ word rest, cs = word ++ rest ∧ p.Covers word := by
  unfold longPiece? at h
  split at h
  · cases h
  next c cs =>
  split at h
  · next hc =>
    cases h
    refine ⟨_, _, List.takeWhile_append_dropWhile.symm, ?_, rfl, fun _ hx => by cases hx⟩
    simp [hc]
  split at h
  · next hc =>
    cases h
    refine ⟨_, _, List.takeWhile_append_dropWhile.symm,
      Piece.covers_lexeme String.toList_ofList rfl ?_⟩
    simp [hc]
  · exact namePiece?_covers h

theorem piece?_covers {cs : List Char} {p : Piece} (h : piece? cs = some p) :
    ∃ word rest, cs = word ++ rest ∧ p.Covers word := by
  have hone {x : Lexeme} {c : Char} {cs : List Char} (hx : x.text.toList = [c]) :
      ∃ word rest, c :: cs = word ++ rest ∧ (Piece.lexeme x 1).Covers word :=
    ⟨[c], cs, rfl, Piece.covers_lexeme hx rfl (by simp)⟩
  have htwo {x : Lexeme} {c d : Char} {cs : List Char} (hx : x.text.toList = [c, d]) :
      ∃ word rest, c :: d :: cs = word ++ rest ∧ (Piece.lexeme x 2).Covers word :=
    ⟨[c, d], cs, rfl, Piece.covers_lexeme hx rfl (by simp)⟩
  unfold piece? at h
  split at h
  case h_1 cs =>
    cases h
    refine ⟨'%' :: cs.takeWhile (!isLineEnd ·), cs.dropWhile (!isLineEnd ·), ?_, ?_⟩
    · rw [List.cons_append, List.takeWhile_append_dropWhile]
    · exact ⟨by simp, by simp [Piece.gap, Nat.add_comm], fun _ hx => by cases hx⟩
  case h_16 => exact longPiece?_covers h
  all_goals
    cases h
    first | exact hone rfl | exact htwo rfl

theorem size_pos_of_piece? {cs : List Char} {p : Piece} (h : piece? cs = some p) : 0 < p.size := by
  obtain ⟨word, rest, -, hword⟩ := piece?_covers h
  exact hword.size ▸ List.length_pos_iff.2 hword.nonempty

theorem Cuts.le_length {cs : List Char} {o : Nat} {ts : List Token} (h : Cuts cs o ts) :
    o ≤ cs.length := by
  have hstep {o : Nat} {p : Piece} (h : o ≤ cs.length) (hp : piece? (cs.drop o) = some p) :
      o + p.size ≤ cs.length := by
    obtain ⟨word, rest, hdrop, hword⟩ := piece?_covers hp
    have hlen := congrArg List.length hdrop
    rw [List.length_drop, List.length_append, ← hword.size] at hlen
    omega
  induction h with
  | start => exact Nat.zero_le _
  | gap _ hp ih => exact hstep ih hp
  | lexeme _ hp ih => exact hstep ih hp

theorem Cuts.offset_lt {cs : List Char} {o : Nat} {ts : List Token} (h : Cuts cs o ts) :
    ∀ t ∈ ts, t.offset < o := by
  induction h with
  | start => simp
  | gap _ _ ih => exact fun t ht => Nat.lt_add_right _ (ih t ht)
  | @lexeme o n ts x _ hp ih =>
    exact forall_mem_append_singleton (fun t ht => Nat.lt_add_right n (ih t ht))
      (Nat.lt_add_of_pos_right (size_pos_of_piece? hp))

theorem Cuts.pairwise_offset {cs : List Char} {o : Nat} {ts : List Token} (h : Cuts cs o ts) :
    (ts.map Token.offset).Pairwise (· < ·) := by
  induction h with
  | start => exact .nil
  | gap _ _ ih => exact ih
  | @lexeme o n ts x h _ ih =>
    rw [List.map_append, List.pairwise_append]
    exact ⟨ih, List.pairwise_singleton _ _, by simpa using h.offset_lt⟩

/-! ## Tokens -/

theorem tokensFrom_skip (o k : Nat) (cs : List Char) :
    tokensFrom o k cs = tokensFrom (o + k) 0 (cs.drop k) := by
  induction cs generalizing o k with
  | nil => simp [tokensFrom]
  | cons c cs ih =>
    cases k with
    | zero => rfl
    | succ k => rw [tokensFrom, ih, List.drop_succ_cons, Nat.add_right_comm, Nat.add_assoc]

theorem tokensFrom_of_piece? {o : Nat} {cs : List Char} {p : Piece} (h : piece? cs = some p) :
    tokensFrom o 0 cs =
      match p.lexeme? with
      | none => tokensFrom (o + p.size) 0 (cs.drop p.size)
      | some x => (tokensFrom (o + p.size) 0 (cs.drop p.size)).map (⟨x, o⟩ :: ·) := by
  obtain ⟨word, rest, rfl, hword⟩ := piece?_covers h
  obtain ⟨c, word, rfl⟩ := List.exists_cons_of_ne_nil hword.nonempty
  have hsize : p.size = word.length + 1 := hword.size
  rw [List.cons_append] at h ⊢
  have hskip : tokensFrom (o + 1) (p.size - 1) (word ++ rest) =
      tokensFrom (o + p.size) 0 ((c :: (word ++ rest)).drop p.size) := by
    rw [tokensFrom_skip, hsize, Nat.add_sub_cancel, List.drop_succ_cons, Nat.add_assoc,
      Nat.add_comm 1]
  cases hx : p.lexeme? <;> simp only [tokensFrom, h, hx, hskip]

theorem Cuts.tokenize_eq {cs : List Char} {o : Nat} {ts : List Token} (h : Cuts cs o ts) :
    tokenize cs = (tokensFrom o 0 (cs.drop o)).map (ts ++ ·) := by
  induction h with
  | start =>
    rw [tokenize, List.drop_zero]
    cases tokensFrom 0 0 cs <;> rfl
  | gap _ hp ih =>
    rw [ih, tokensFrom_of_piece? hp, List.drop_drop]
    rfl
  | @lexeme o n ts x _ hp ih =>
    rw [ih, tokensFrom_of_piece? hp, List.drop_drop]
    change Except.map _ (Except.map _ (tokensFrom (o + n) 0 (cs.drop (o + n)))) = _
    cases tokensFrom (o + n) 0 (cs.drop (o + n)) <;> simp [Except.map]

theorem exists_cuts (cs : List Char) : ∃ o ts, Cuts cs o ts ∧ piece? (cs.drop o) = none := by
  have hstep (n : Nat) : ∀ o ts, Cuts cs o ts → cs.length - o ≤ n →
      ∃ o ts, Cuts cs o ts ∧ piece? (cs.drop o) = none := by
    induction n with
    | zero =>
      intro o ts h hn
      exact ⟨o, ts, h, by rw [List.drop_eq_nil_of_le (by omega)]; rfl⟩
    | succ n ih =>
      intro o ts h hn
      cases hp : piece? (cs.drop o) with
      | none => exact ⟨o, ts, h, hp⟩
      | some p =>
        have hpos := size_pos_of_piece? hp
        obtain ⟨x?, k⟩ := p
        cases x? with
        | none => exact ih _ _ (h.gap hp) (by simp only at hpos; omega)
        | some x => exact ih _ _ (h.lexeme hp) (by simp only at hpos; omega)
  exact hstep cs.length 0 [] .start (by simp)

theorem StuckAt.tokenize_eq {cs : List Char} {o : Nat} (h : StuckAt cs o) :
    tokenize cs = .error o := by
  obtain ⟨ho, hp, ts, h⟩ := h
  rw [h.tokenize_eq]
  rw [List.drop_eq_getElem_cons ho] at hp ⊢
  rw [tokensFrom, hp]
  rfl

theorem Cuts.tokenize_eq_ok {cs : List Char} {ts : List Token} (h : Cuts cs cs.length ts) :
    tokenize cs = .ok ts := by
  rw [h.tokenize_eq, List.drop_length]
  simp [tokensFrom, Except.map]

theorem tokenize_cases (cs : List Char) :
    (∃ ts, Cuts cs cs.length ts ∧ tokenize cs = .ok ts) ∨
      ∃ o, StuckAt cs o ∧ tokenize cs = .error o := by
  obtain ⟨o, ts, h, hp⟩ := exists_cuts cs
  rcases Nat.lt_or_eq_of_le h.le_length with ho | rfl
  · have hstuck : StuckAt cs o := ⟨ho, hp, ts, h⟩
    exact .inr ⟨o, hstuck, hstuck.tokenize_eq⟩
  · exact .inl ⟨ts, h, h.tokenize_eq_ok⟩

theorem tokenize_eq_ok_iff {cs : List Char} {ts : List Token} :
    tokenize cs = .ok ts ↔ Cuts cs cs.length ts := by
  refine ⟨fun h => ?_, Cuts.tokenize_eq_ok⟩
  rcases tokenize_cases cs with ⟨us, hus, hread⟩ | ⟨o, -, hread⟩
  · cases hread.symm.trans h
    exact hus
  · cases hread.symm.trans h

theorem tokenize_eq_error_iff {cs : List Char} {o : Nat} :
    tokenize cs = .error o ↔ StuckAt cs o := by
  refine ⟨fun h => ?_, StuckAt.tokenize_eq⟩
  rcases tokenize_cases cs with ⟨us, -, hread⟩ | ⟨o, ho, hread⟩
  · cases hread.symm.trans h
  · cases hread.symm.trans h
    exact ho

/-! ## Lexemes that are read back -/

def Lexeme.ReadBefore (d : Char) (x : Lexeme) : Prop :=
  ∀ rest, piece? (x.text.toList ++ d :: rest) = some (.lexeme x x.text.toList.length)

/-- The text of the lexeme is read back if a line feed comes after it. -/
def Lexeme.Readable (x : Lexeme) : Prop :=
  ∀ rest, piece? (x.text.toList ++ '\n' :: rest) = some (.lexeme x x.text.toList.length)

structure Ends (d : Char) : Prop where
  name : isNameChar d = false
  digit : isDecimalDigit d = false
  colon : d ≠ ':'
  dash : d ≠ '-'

theorem ends_lineFeed : Ends '\n' := ⟨by decide, by decide, by decide, by decide⟩

theorem piece?_eq_longPiece? {c : Char} {cs : List Char}
    (hc : (isDecimalDigit c || isNameChar c) = true) (hcs : cs.head? ≠ some ':') :
    piece? (c :: cs) = longPiece? (c :: cs) := by
  unfold piece?
  split
  case h_16 => rfl
  all_goals
    rename_i heq
    cases heq
    first | exact absurd rfl hcs | exact absurd hc (by decide)

theorem isNameChar_of_isUnderscore {c : Char} (h : isUnderscore c = true) :
    isNameChar c = true := by
  rw [isUnderscore, beq_iff_eq] at h
  exact h ▸ rfl

section Ends

variable {d : Char} (hd : Ends d)

include hd

theorem head?_append_ne {p : Char → Bool} {cs rest : List Char} (hcs : ∀ c ∈ cs, p c = true)
    (hp : p ':' = false) : (cs ++ d :: rest).head? ≠ some ':' := by
  cases cs with
  | nil => simpa using hd.colon
  | cons c cs =>
    rintro h
    cases h
    exact Bool.false_ne_true (hp.symm.trans (hcs ':' List.mem_cons_self))

theorem readBefore_integer {c : Char} {cs : List Char} (hc : isBlank c = false)
    (hcs : ∀ e ∈ c :: cs, isDecimalDigit e = true) :
    (Lexeme.integer (.ofList (c :: cs))).ReadBefore d := by
  intro rest
  have hdigit := hcs c List.mem_cons_self
  have htail : ∀ e ∈ cs, isDecimalDigit e = true := fun e h => hcs e (List.mem_cons_of_mem c h)
  have hdigits : (c :: (cs ++ d :: rest)).takeWhile isDecimalDigit = c :: cs := by
    rw [← List.cons_append, List.takeWhile_append_of_pos hcs]
    simp [hd.digit]
  rw [Lexeme.text, String.toList_ofList, List.cons_append,
    piece?_eq_longPiece? (by simp [hdigit]) (head?_append_ne hd htail (by decide))]
  simp [longPiece?, hc, hdigit, hdigits]

theorem piece?_eq_namePiece? {word rest : List Char} (hword : word ≠ [])
    (hchars : ∀ c ∈ word, isNameChar c = true)
    (hfront : ∀ c ∈ word.head?, isBlank c = false ∧ isDecimalDigit c = false) :
    piece? (word ++ d :: rest) = namePiece? (word ++ d :: rest) := by
  obtain ⟨c, cs, rfl⟩ := List.exists_cons_of_ne_nil hword
  have hc := hchars c List.mem_cons_self
  obtain ⟨hblank, hdigit⟩ := hfront c rfl
  have htail : ∀ e ∈ cs, isNameChar e = true := fun e h => hchars e (List.mem_cons_of_mem c h)
  rw [List.cons_append,
    piece?_eq_longPiece? (by simp [hc]) (head?_append_ne hd htail (by decide))]
  simp [longPiece?, hblank, hdigit]

theorem namePiece?_name {us name rest : List Char} {c : Char} {make : String → Lexeme}
    (hus : ∀ e ∈ us, isUnderscore e = true) (hname : ∀ e ∈ name, isNameChar e = true)
    (hc : isUpperLetter c = true ∧ make = .var ∨
      isUpperLetter c = false ∧ isLowerLetter c = true ∧ make = .constant) :
    namePiece? (us ++ c :: name ++ d :: rest) =
      some (.lexeme (make (.ofList (us ++ c :: name))) (us ++ c :: name).length) := by
  have hunderscore : isUnderscore c = false := by
    have hne : c ≠ '_' := by
      rcases hc with ⟨hc, -⟩ | ⟨-, hc, -⟩
      · exact (ne_of_isUpperLetter hc).1
      · exact (ne_of_isLowerLetter hc).1
    simpa [isUnderscore] using hne
  have hrest : (name ++ d :: rest).takeWhile isNameChar = name := by
    rw [List.takeWhile_append_of_pos hname]
    simp [hd.name]
  rw [List.append_assoc, List.cons_append, namePiece?, List.takeWhile_append_of_pos hus,
    List.dropWhile_append_of_pos hus]
  rcases hc with ⟨hc, rfl⟩ | ⟨hupper, hc, rfl⟩
  · simp [hunderscore, hrest, hc]
  · simp [hunderscore, hrest, hc, hupper]

theorem readBefore_name {us name : List Char} {c : Char} {make : String → Lexeme}
    (hus : ∀ e ∈ us, isUnderscore e = true) (hname : ∀ e ∈ name, isNameChar e = true)
    (hc : isUpperLetter c = true ∧ make = .var ∨
      isUpperLetter c = false ∧ isLowerLetter c = true ∧ make = .constant)
    (hfront : ∀ e ∈ (us ++ c :: name).head?, isBlank e = false ∧ isDecimalDigit e = false) :
    (make (.ofList (us ++ c :: name))).ReadBefore d := by
  have htext : (make (.ofList (us ++ c :: name))).text.toList = us ++ c :: name := by
    rcases hc with ⟨-, rfl⟩ | ⟨-, -, rfl⟩ <;> exact String.toList_ofList
  have hchars : ∀ e ∈ us ++ c :: name, isNameChar e = true := by
    simp only [List.mem_append, List.mem_cons]
    rintro e (he | rfl | he)
    · exact isNameChar_of_isUnderscore (hus e he)
    · rcases hc with ⟨hc, -⟩ | ⟨-, hc, -⟩ <;> simp [isNameChar, hc]
    · exact hname e he
  intro rest
  rw [htext, piece?_eq_namePiece? hd (by simp) hchars hfront, namePiece?_name hd hus hname hc]

theorem readBefore_anonymous : Lexeme.anonymous.ReadBefore d := by
  intro rest
  have hname := hd.name
  simp only [isNameChar, Bool.or_eq_false_iff] at hname
  obtain ⟨⟨⟨⟨hupper, hlower⟩, -⟩, hunderscore⟩, -⟩ := hname
  have hfront : ∀ c ∈ ['_'].head?, isBlank c = false ∧ isDecimalDigit c = false := by
    rintro c ⟨⟩
    decide
  change piece? (['_'] ++ d :: rest) = _
  rw [piece?_eq_namePiece? hd (by simp) (List.forall_mem_singleton.2 rfl) hfront]
  simp [namePiece?, isUnderscore, hunderscore, hupper, hlower, Lexeme.text]

theorem readBefore_section {x : Lexeme} (hx : x = .input ∨ x = .outputs) : x.ReadBefore d := by
  have hdash := hd.dash
  intro rest
  rcases hx with rfl | rfl
  · change piece? ('I' :: ':' :: d :: rest) = _
    unfold piece?
    split <;> simp_all [Lexeme.text]
  · change piece? ('O' :: ':' :: d :: rest) = _
    unfold piece?
    split <;> simp_all [Lexeme.text]

theorem readBefore_of_namePiece? {cs : List Char} {x : Lexeme} {n : Nat}
    (h : namePiece? cs = some (.lexeme x n))
    (hfront : ∀ c ∈ cs.head?, isBlank c = false ∧ isDecimalDigit c = false) : x.ReadBefore d := by
  have hunderscore (h : (if (cs.takeWhile isUnderscore).isEmpty then none
      else some (Piece.lexeme .anonymous 1)) = some (.lexeme x n)) : x.ReadBefore d := by
    split at h
    · cases h
    · cases h
      exact readBefore_anonymous hd
  unfold namePiece? at h
  split at h
  · next c rest hdrop =>
    have hus : ∀ e ∈ cs.takeWhile isUnderscore, isUnderscore e = true :=
      fun _ => List.mem_takeWhile_imp
    have hname : ∀ e ∈ rest.takeWhile isNameChar, isNameChar e = true :=
      fun _ => List.mem_takeWhile_imp
    have hhead : (cs.takeWhile isUnderscore ++ c :: rest.takeWhile isNameChar).head? =
        cs.head? := by
      have hcs : cs.takeWhile isUnderscore ++ c :: rest = cs := by
        rw [← hdrop, List.takeWhile_append_dropWhile]
      rw [← congrArg List.head? hcs]
      cases cs.takeWhile isUnderscore <;> rfl
    rw [← hhead] at hfront
    split at h
    · next hc =>
      cases h
      exact readBefore_name hd hus hname (.inl ⟨hc, rfl⟩) hfront
    split at h
    · next hupper hc =>
      cases h
      exact readBefore_name hd hus hname (.inr ⟨by simpa using hupper, hc, rfl⟩) hfront
    · exact hunderscore h
  · exact hunderscore h

theorem readBefore_of_longPiece? {cs : List Char} {x : Lexeme} {n : Nat}
    (h : longPiece? cs = some (.lexeme x n)) : x.ReadBefore d := by
  unfold longPiece? at h
  split at h
  · cases h
  next c cs =>
  split at h
  · cases h
  next hblank =>
  rw [Bool.not_eq_true] at hblank
  split at h
  · next hdigit =>
    rw [List.takeWhile_cons_of_pos hdigit] at h
    cases h
    refine readBefore_integer hd hblank fun e he => ?_
    cases List.mem_cons.1 he with
    | inl he => exact he ▸ hdigit
    | inr he => exact List.mem_takeWhile_imp he
  · next hdigit =>
    rw [Bool.not_eq_true] at hdigit
    refine readBefore_of_namePiece? hd h fun e he => ?_
    cases he
    exact ⟨hblank, hdigit⟩

theorem readBefore_of_piece? {cs : List Char} {x : Lexeme} {n : Nat}
    (h : piece? cs = some (.lexeme x n)) : x.ReadBefore d := by
  have hname {c : Char} (hc : isUpperLetter c = true ∧ isBlank c = false ∧
      isDecimalDigit c = false) : (Lexeme.var (.ofList ([] ++ [c]))).ReadBefore d :=
    readBefore_name hd (List.forall_mem_nil _) (List.forall_mem_nil _) (.inl ⟨hc.1, rfl⟩)
      (by simpa using hc.2)
  unfold piece? at h
  split at h
  case h_1 => cases h
  case h_2 =>
    cases h
    exact hname (c := 'I') (by decide)
  case h_3 =>
    cases h
    exact hname (c := 'O') (by decide)
  case h_4 =>
    cases h
    exact readBefore_section hd (.inl rfl)
  case h_5 =>
    cases h
    exact readBefore_section hd (.inr rfl)
  case h_16 => exact readBefore_of_longPiece? hd h
  all_goals
    cases h
    exact fun _ => rfl

theorem Cuts.readBefore {cs : List Char} {o : Nat} {ts : List Token} (h : Cuts cs o ts) :
    ∀ t ∈ ts, t.lexeme.ReadBefore d := by
  induction h with
  | start => simp
  | gap _ _ ih => exact ih
  | lexeme _ hp ih => exact forall_mem_append_singleton ih (readBefore_of_piece? hd hp)

end Ends

theorem readable_of_piece? {cs : List Char} {x : Lexeme} {n : Nat}
    (h : piece? cs = some (.lexeme x n)) : x.Readable := readBefore_of_piece? ends_lineFeed h

theorem Cuts.readable {cs : List Char} {o : Nat} {ts : List Token} (h : Cuts cs o ts) :
    ∀ t ∈ ts, t.lexeme.Readable := h.readBefore ends_lineFeed

theorem piece?_of_isBlank {c : Char} {cs : List Char} (hc : isBlank c = true) :
    piece? (c :: cs) = some (.gap (cs.takeWhile isBlank).length.succ) := by
  unfold piece?
  split
  case h_16 => simp [longPiece?, hc]
  all_goals
    rename_i heq
    cases heq
    exact absurd hc (by decide)

theorem Lexeme.Readable.exists_cons {x : Lexeme} (h : x.Readable) :
    ∃ c cs, x.text.toList = c :: cs ∧ isBlank c = false := by
  have hread := h []
  cases htext : x.text.toList with
  | nil =>
    rw [htext, List.nil_append, piece?_of_isBlank (by decide)] at hread
    cases hread
  | cons c cs =>
    refine ⟨c, cs, rfl, ?_⟩
    by_contra hc
    rw [htext, List.cons_append, piece?_of_isBlank (by simpa using hc)] at hread
    cases hread

end AnswerSetLearning
