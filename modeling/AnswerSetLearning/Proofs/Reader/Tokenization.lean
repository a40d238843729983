import AnswerSetLearning.Proofs.Reader.Alternation

namespace AnswerSetLearning

open Piece (Kind)
open Piece.Kind

/-! ### The loop -/

/-- The loop comes to the offset with the tokens. At each place the first kind that matches takes
its preferred match, which is a token unless it is blanks or a comment. -/
inductive Scans (cs : List Char) : Nat → List Token → Prop
  | start : Scans cs 0 []
  | gap {o : Nat} {ts : List Token} {k : Kind} {word rest : List Char} (h : Scans cs o ts)
    (hdrop : cs.drop o = word ++ rest) (hchoice : choose? (cs.drop o) = some (k, rest))
    (hk : k.lexemeKind? = none) : Scans cs (o + word.length) ts
  | lexeme {o : Nat} {ts : List Token} {x : Lexeme} {rest : List Char} (h : Scans cs o ts)
    (hdrop : cs.drop o = x.text.toList ++ rest)
    (hchoice : choose? (cs.drop o) = some (.lexeme x.kind, rest)) :
    Scans cs (o + x.text.toList.length) (ts ++ [⟨x, o⟩])

section Choice

variable {cs word rest : List Char} {p : Piece} {k : Kind} {o : Nat} {ts : List Token}

theorem eq_lexeme_of_lexemeKind? {kind : Lexeme.Kind} (h : some kind = k.lexemeKind?) :
    k = .lexeme kind := by
  cases k <;> cases h
  rfl

theorem Piece.Kind.Takes.covers (h : Takes p k word rest) (hp : piece? (word ++ rest) = some p) :
    p.Covers word := by
  obtain ⟨word', rest', hsame, hcovers⟩ := piece?_covers hp
  have hlen : word.length = word'.length := h.size.symm.trans hcovers.size
  exact (List.append_inj hsame hlen).1 ▸ hcovers

theorem choose?_eq_none_iff : choose? cs = none ↔ ∀ k : Kind, k.regex.rests cs = [] := by
  simp [choose?, mem_all]

theorem piece?_eq_none_iff : piece? cs = none ↔ ∀ k : Kind, k.regex.rests cs = [] := by
  refine ⟨rests_eq_nil_of_piece?, fun h => ?_⟩
  by_contra hp
  obtain ⟨p, hp⟩ := Option.ne_none_iff_exists'.1 hp
  obtain ⟨k, word, rest, rfl, htakes⟩ := exists_takes hp
  cases (choose?_eq_none_iff.2 h).symm.trans htakes.chosen.choose?_eq

theorem exists_takes_of_choose? (h : choose? cs = some (k, rest)) :
    ∃ p word, cs = word ++ rest ∧ piece? cs = some p ∧ Takes p k word rest := by
  cases hp : piece? cs with
  | none => cases (choose?_eq_none_iff.2 (piece?_eq_none_iff.1 hp)).symm.trans h
  | some p =>
    obtain ⟨k', word, rest', rfl, htakes⟩ := exists_takes hp
    cases htakes.chosen.choose?_eq.symm.trans h
    exact ⟨p, word, rfl, rfl, htakes⟩

theorem chosen_of_choose? (h : choose? cs = some (k, rest)) :
    Chosen k cs rest ∧ ∃ word, word ≠ [] ∧ cs = word ++ rest := by
  obtain ⟨p, word, rfl, hp, htakes⟩ := exists_takes_of_choose? h
  exact ⟨htakes.chosen, word, (htakes.covers hp).nonempty, rfl⟩

theorem Cuts.scans (h : Cuts cs o ts) : Scans cs o ts := by
  induction h with
  | start => exact .start
  | gap _ hp ih =>
    obtain ⟨k, word, rest, hdrop, htakes⟩ := exists_takes hp
    cases htakes.size
    exact ih.gap hdrop (hdrop ▸ htakes.chosen.choose?_eq) htakes.kind.symm
  | @lexeme o n ts x _ hp ih =>
    obtain ⟨k, word, rest, hdrop, htakes⟩ := exists_takes hp
    cases htakes.size
    cases (htakes.covers (hdrop ▸ hp)).text x rfl
    cases eq_lexeme_of_lexemeKind? htakes.kind
    exact ih.lexeme hdrop (hdrop ▸ htakes.chosen.choose?_eq)

theorem Scans.cuts (h : Scans cs o ts) : Cuts cs o ts := by
  induction h with
  | start => exact .start
  | gap _ hdrop hchoice hk ih =>
    obtain ⟨⟨x?, n⟩, word', hsame, hp, htakes⟩ := exists_takes_of_choose? hchoice
    cases List.append_cancel_right (hdrop.symm.trans hsame)
    cases htakes.size
    cases x? with
    | none => exact ih.gap hp
    | some x => cases htakes.kind.trans hk
  | @lexeme o ts x rest _ hdrop hchoice ih =>
    obtain ⟨⟨x?, n⟩, word', hsame, hp, htakes⟩ := exists_takes_of_choose? hchoice
    cases List.append_cancel_right (hdrop.symm.trans hsame)
    cases htakes.size
    cases x? with
    | none => cases htakes.kind
    | some y =>
      have hkind : y.kind = x.kind := Option.some.inj htakes.kind
      have htext : y.text.toList = x.text.toList := (htakes.covers (hdrop ▸ hp)).text y rfl
      cases Lexeme.eq_of_kind_text hkind (String.toList_inj.1 htext)
      exact ih.lexeme hp

theorem scans_iff_cuts : Scans cs o ts ↔ Cuts cs o ts := ⟨Scans.cuts, Cuts.scans⟩

end Choice

/-! ### Where the tokens stand -/

namespace Token

def stop (t : Token) : Nat := t.offset + t.lexeme.text.toList.length

def StandsIn (cs : List Char) (t : Token) : Prop := t.lexeme.text.toList <+: cs.drop t.offset

end Token

theorem Cuts.standsIn {cs : List Char} {o : Nat} {ts : List Token} (h : Cuts cs o ts) :
    ∀ t ∈ ts, t.StandsIn cs ∧ t.stop ≤ o := by
  induction h with
  | start => simp
  | gap _ _ ih => exact fun t ht => ⟨(ih t ht).1, Nat.le_add_right_of_le (ih t ht).2⟩
  | @lexeme o n ts x _ hp ih =>
    obtain ⟨word, rest, hdrop, hcovers⟩ := piece?_covers hp
    have hstands : Token.StandsIn cs ⟨x, o⟩ := by
      rw [Token.StandsIn, hcovers.text x rfl]
      exact ⟨rest, hdrop.symm⟩
    have hstop : Token.stop ⟨x, o⟩ = o + n := by
      rw [Token.stop, hcovers.text x rfl]
      exact congrArg (o + ·) hcovers.size.symm
    refine forall_mem_append_singleton ?_ ⟨hstands, hstop.le⟩
    exact fun t ht => ⟨(ih t ht).1, Nat.le_add_right_of_le (ih t ht).2⟩

theorem Cuts.pairwise_stop {cs : List Char} {o : Nat} {ts : List Token} (h : Cuts cs o ts) :
    ts.Pairwise fun t u => t.offset < u.offset ∧ t.stop ≤ u.offset := by
  induction h with
  | start => exact .nil
  | gap _ _ ih => exact ih
  | lexeme h _ ih =>
    refine List.pairwise_append.2 ⟨ih, List.pairwise_singleton _ _, fun t ht u hu => ?_⟩
    rw [List.mem_singleton.1 hu]
    exact ⟨h.offset_lt t ht, (h.standsIn t ht).2⟩

/-! ### What stands between the tokens -/

/-- The characters, of which the first one has the offset, are the texts of the tokens with blanks
and comments before, between and after them. The last comment may end with the text. -/
inductive Placed : Nat → List Char → List Token → Prop
  | last {o : Nat} {gap : List Char} (hgap : IsLayout gap) : Placed o gap []
  | lastComment {o : Nat} {gap text : List Char} (hgap : IsLayout gap)
    (htext : ∀ c ∈ text, isLineEnd c = false) : Placed o (gap ++ '%' :: text) []
  | cons {o : Nat} {gap cs : List Char} {x : Lexeme} {ts : List Token} (hgap : IsLayout gap)
    (h : Placed (o + gap.length + x.text.toList.length) cs ts) :
    Placed o (gap ++ (x.text.toList ++ cs)) (⟨x, o + gap.length⟩ :: ts)

namespace IsLayout

theorem append {cs ds : List Char} (h : IsLayout cs) (h' : IsLayout ds) : IsLayout (cs ++ ds) := by
  induction h with
  | nil => exact h'
  | blank hc _ ih => exact ih.blank hc
  | comment htext hc _ ih =>
    rw [List.cons_append, List.append_assoc, List.cons_append]
    exact ih.comment htext hc

end IsLayout

section Placed

variable {o : Nat} {c : Char} {cs : List Char} {ts : List Token}

theorem Placed.layout {gap : List Char} (hgap : IsLayout gap) (h : Placed (o + gap.length) cs ts) :
    Placed o (gap ++ cs) ts := by
  have hoffset (gap' : List Char) : o + gap.length + gap'.length = o + (gap ++ gap').length := by
    rw [List.length_append, Nat.add_assoc]
  cases h with
  | last h => exact .last (hgap.append h)
  | lastComment h htext =>
    rw [← List.append_assoc]
    exact .lastComment (hgap.append h) htext
  | cons h h' =>
    rw [hoffset] at h' ⊢
    rw [← List.append_assoc]
    exact .cons (hgap.append h) h'

theorem Placed.blank (hc : isBlank c = true) (h : Placed (o + 1) cs ts) : Placed o (c :: cs) ts :=
  .layout (.blank hc .nil : IsLayout [c]) h

theorem Placed.comment {text : List Char} (htext : ∀ d ∈ text, isLineEnd d = false)
    (hc : isLineEnd c = true) (h : Placed (o + (1 + text.length) + 1) cs ts) :
    Placed o ('%' :: (text ++ c :: cs)) ts := by
  have hgap : IsLayout ('%' :: (text ++ [c])) := .comment htext hc .nil
  have hlen : ('%' :: (text ++ [c])).length = 1 + text.length + 1 := by
    rw [List.length_cons, List.length_append, List.length_singleton, Nat.add_comm 1]
  rw [Nat.add_assoc, ← hlen] at h
  simpa using h.layout hgap

theorem Placed.lexeme {x : Lexeme} (h : Placed (o + x.text.toList.length) cs ts) :
    Placed o (x.text.toList ++ cs) (⟨x, o⟩ :: ts) := .cons .nil h

theorem tokensFrom_of_isBlank (hc : isBlank c = true) :
    tokensFrom o 0 (c :: cs) = tokensFrom (o + 1) 0 cs := by
  rw [tokensFrom_of_piece? (piece?_of_isBlank hc)]
  cases cs with
  | nil => rfl
  | cons d cs =>
    cases hd : isBlank d with
    | false => simp [Piece.gap, hd]
    | true =>
      rw [tokensFrom_of_piece? (piece?_of_isBlank hd), List.takeWhile_cons_of_pos hd]
      simp [Piece.gap, Nat.add_assoc, Nat.add_comm 1]

theorem exists_lineEnd (cs : List Char) :
    ∃ text rest, cs = text ++ rest ∧ (∀ c ∈ text, isLineEnd c = false) ∧
      ∀ c ∈ rest.head?, isLineEnd c = true := by
  refine ⟨cs.takeWhile (!isLineEnd ·), cs.dropWhile (!isLineEnd ·),
    List.takeWhile_append_dropWhile.symm, fun c hc => ?_, fun c hc => ?_⟩
  · simpa using List.mem_takeWhile_imp hc
  · have hhead := List.head?_dropWhile_not (!isLineEnd ·) cs
    rw [Option.mem_def.1 hc] at hhead
    simpa using hhead

theorem begins_of_choose? {k : Kind} {rest : List Char}
    (h : choose? (c :: cs) = some (k, rest)) : k.begins c = true := by
  obtain ⟨k', -, hk'⟩ := List.exists_of_findSome?_eq_some h
  by_contra hbegins
  obtain ⟨r, hr, heq⟩ := Option.map_eq_some_iff.1 hk'
  cases heq
  simp [rests_eq_nil (by simpa using hbegins)] at hr

theorem isBlank_or_comment_of_gap {n : Nat} (h : piece? (c :: cs) = some (.gap n)) :
    isBlank c = true ∨ c = '%' := by
  obtain ⟨k, word, rest, hword, htakes⟩ := exists_takes h
  have hbegins := begins_of_choose? (hword ▸ htakes.chosen.choose?_eq)
  cases k with
  | blanks => exact .inl hbegins
  | comment => exact .inr (beq_iff_eq.1 hbegins)
  | lexeme k => cases htakes.kind

theorem tokensFrom_comment {text : List Char} (htext : ∀ c ∈ text, isLineEnd c = false)
    (hcs : ∀ c ∈ cs.head?, isLineEnd c = true) :
    tokensFrom o 0 ('%' :: (text ++ cs)) = tokensFrom (o + (1 + text.length)) 0 cs := by
  rw [tokensFrom_of_piece? (piece?_comment htext hcs)]
  simp [Piece.gap, Nat.add_comm 1]

theorem exists_tokensFrom_of_lexeme {x : Lexeme} {n : Nat} (hp : piece? cs = some (.lexeme x n))
    (h : tokensFrom o 0 cs = .ok ts) :
    ∃ rest us, cs = x.text.toList ++ rest ∧ ts = ⟨x, o⟩ :: us ∧ rest.length < cs.length ∧
      tokensFrom (o + x.text.toList.length) 0 rest = .ok us := by
  obtain ⟨word, rest, rfl, hcovers⟩ := piece?_covers hp
  cases hcovers.size
  have hpos := List.length_pos_iff.2 hcovers.nonempty
  cases hcovers.text x rfl
  rw [tokensFrom_of_piece? hp] at h
  simp only [Piece.lexeme, List.drop_left] at h
  cases hus : tokensFrom (o + x.text.toList.length) 0 rest with
  | error e => simp [hus, Except.map] at h
  | ok us =>
    rw [hus] at h
    cases h
    refine ⟨rest, us, rfl, rfl, ?_, hus⟩
    rw [List.length_append]
    exact Nat.lt_add_of_pos_left hpos

theorem placed_of_tokensFrom (h : tokensFrom o 0 cs = .ok ts) : Placed o cs ts := by
  -- On the length, since a lexeme or a comment takes several characters at once.
  induction hn : cs.length using Nat.strong_induction_on generalizing o cs ts with
  | _ n ih =>
    subst hn
    cases cs with
    | nil =>
      cases h
      exact .last .nil
    | cons c cs =>
      by_cases hc : isBlank c = true
      · rw [tokensFrom_of_isBlank hc] at h
        exact .blank hc (ih _ (Nat.lt_succ_self _) h rfl)
      by_cases hcomment : c = '%'
      · subst hcomment
        obtain ⟨text, rest, rfl, htext, hrest⟩ := exists_lineEnd cs
        rw [tokensFrom_comment htext hrest] at h
        cases rest with
        | nil =>
          cases h
          rw [List.append_nil]
          exact .lastComment .nil htext
        | cons d rest =>
          have hd := hrest d rfl
          rw [tokensFrom_of_isBlank (isBlank_of_isLineEnd hd)] at h
          exact .comment htext hd (ih _ (by simp; omega) h rfl)
      · cases hp : piece? (c :: cs) with
        | none => simp [tokensFrom, hp] at h
        | some p =>
          obtain ⟨x?, n⟩ := p
          cases x? with
          | none => exact ((isBlank_or_comment_of_gap hp).elim hc hcomment).elim
          | some x =>
            obtain ⟨rest, us, hsplit, rfl, hlt, hus⟩ := exists_tokensFrom_of_lexeme hp h
            exact hsplit ▸ .lexeme (ih _ hlt hus rfl)

end Placed

/-! ### The whole text -/

/-- The tokens are those of the loop over the ordered choice, and stand in the text in their order
with nothing but blanks and comments around them. Wherever a kind matches, the first one takes more
than any other can, and takes something. The loop fails where no kind matches although the text goes
on. -/
theorem tokenize_takes_longest (cs : List Char) :
    (∀ ts, tokenize cs = .ok ts ↔ Scans cs cs.length ts) ∧
    (∀ ts, tokenize cs = .ok ts → Placed 0 cs ts ∧ (∀ t ∈ ts, t.StandsIn cs) ∧
      ts.Pairwise fun t u => t.offset < u.offset ∧ t.stop ≤ u.offset) ∧
    (∀ o k rest, choose? (cs.drop o) = some (k, rest) →
      Chosen k (cs.drop o) rest ∧ ∃ word, word ≠ [] ∧ cs.drop o = word ++ rest) ∧
    ∀ o, tokenize cs = .error o ↔
      o < cs.length ∧ (∃ ts, Scans cs o ts) ∧ ∀ k : Kind, k.regex.rests (cs.drop o) = [] := by
  refine ⟨fun ts => tokenize_eq_ok_iff.trans scans_iff_cuts.symm, fun ts h => ?_,
    fun o k rest => chosen_of_choose?, fun o => ?_⟩
  · have hcuts := tokenize_eq_ok_iff.1 h
    exact ⟨placed_of_tokensFrom h, fun t ht => (hcuts.standsIn t ht).1, hcuts.pairwise_stop⟩
  · rw [tokenize_eq_error_iff, StuckAt, piece?_eq_none_iff]
    simp only [scans_iff_cuts]
    exact and_congr_right' and_comm

theorem tokenize_markBeforeArrow :
    Placed 0 "I:-_b__%I:\n I:".toList
      [⟨.var "I", 0⟩, ⟨.implies, 1⟩, ⟨.constant "_b__", 3⟩, ⟨.input, 12⟩] ∧
    (∃ ts, Scans "I:-?".toList 3 ts) ∧ tokenize "I:-?".toList = .error 3 := by
  have hread : tokenize "I:-_b__%I:\n I:".toList =
      .ok [⟨.var "I", 0⟩, ⟨.implies, 1⟩, ⟨.constant "_b__", 3⟩, ⟨.input, 12⟩] := by cbv
  have hfails : tokenize "I:-?".toList = .error 3 := by cbv
  exact ⟨((tokenize_takes_longest _).2.1 _ hread).1,
    (((tokenize_takes_longest _).2.2.2 3).1 hfails).2.1, hfails⟩

end AnswerSetLearning
