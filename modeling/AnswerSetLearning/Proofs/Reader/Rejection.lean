import AnswerSetLearning.Proofs.Reader.Faults

namespace AnswerSetLearning

theorem Relation.text_injective : Function.Injective Relation.text := by
  intro r s h
  cases r <;> cases s <;> first | rfl | exact absurd h (by decide)

namespace Lexeme

inductive Kind
  | sectionMark
  | implies
  | relation
  | punctuation
  | integer
  | var
  | constant
  | anonymous
  deriving DecidableEq

def kind : Lexeme → Kind
  | .input | .outputs => .sectionMark
  | .implies => .implies
  | .relation _ => .relation
  | .openParen | .closeParen | .openBrace | .closeBrace | .comma | .stop => .punctuation
  | .integer _ => .integer
  | .var _ => .var
  | .constant _ => .constant
  | .anonymous => .anonymous

theorem eq_of_kind_text {x y : Lexeme} (hkind : x.kind = y.kind) (htext : x.text = y.text) :
    x = y := by
  cases x <;> cases y <;> simp_all [kind, text, Relation.text_injective.eq_iff]

end Lexeme

namespace Token

def kindAndText (t : Token) : Lexeme.Kind × String := (t.lexeme.kind, t.lexeme.text)

theorem map_kindAndText_eq_iff {ts us : List Token} :
    ts.map kindAndText = us.map kindAndText ↔ ts.map lexeme = us.map lexeme := by
  have hinjective : Function.Injective fun x : Lexeme => (x.kind, x.text) := fun x y h =>
    Lexeme.eq_of_kind_text (Prod.ext_iff.1 h).1 (Prod.ext_iff.1 h).2
  have hmap (ts : List Token) :
      ts.map kindAndText = (ts.map lexeme).map fun x => (x.kind, x.text) := by
    rw [List.map_map]
    rfl
  rw [hmap, hmap, (List.map_injective_iff.2 hinjective).eq_iff]

end Token

def places (cs : List Char) (ts : List Token) : List Nat := ts.map Token.offset ++ [cs.length]

theorem Cuts.pairwise_places {cs : List Char} {ts : List Token} (h : Cuts cs cs.length ts) :
    (places cs ts).Pairwise (· < ·) := by
  rw [places, List.pairwise_append]
  exact ⟨h.pairwise_offset, List.pairwise_singleton _ _, by simpa using h.offset_lt⟩

theorem Cuts.le_of_mem_places {cs : List Char} {ts : List Token} (h : Cuts cs cs.length ts) :
    ∀ o ∈ places cs ts, o ≤ cs.length :=
  forall_mem_append_singleton
    (List.forall_mem_map.2 fun t ht => (h.offset_lt t ht).le) (Nat.le_refl _)

theorem ParseFault.eq_of_ofOffset_eq {cs : List Char} {o o' : Nat} (ho : o ≤ cs.length)
    (ho' : o' ≤ cs.length) (h : ofOffset cs o = ofOffset cs o') : o = o' := by
  have hlocated (o : Nat) : LocatedAt cs o (ofOffset cs o).line (ofOffset cs o).column :=
    locatedAt_iff.2 ⟨rfl, rfl⟩
  exact (hlocated o).unique (h ▸ hlocated o') ho ho'

/-- The text is not accepted, and the reader gives up at the token with the index, or at the end
when there is no such token. -/
def RejectedAt (text : String) (ts : List Token) (i : Nat) : Prop :=
  ∃ o, (places text.toList ts)[i]? = some o ∧
    parseTask text = .error (.ofOffset text.toList o)

section Tokenized

variable {text : String} {ts : List Token} (h : tokenize text.toList = .ok ts)

include h

theorem RejectedAt.unique {i j : Nat} (hi : RejectedAt text ts i) (hj : RejectedAt text ts j) :
    i = j := by
  have hcuts := tokenize_eq_ok_iff.1 h
  obtain ⟨o, ho, hread⟩ := hi
  obtain ⟨o', ho', hread'⟩ := hj
  have hoo' : o = o' := ParseFault.eq_of_ofOffset_eq
    (hcuts.le_of_mem_places o (List.mem_of_getElem? ho))
    (hcuts.le_of_mem_places o' (List.mem_of_getElem? ho'))
    (Except.error.inj (hread.symm.trans hread'))
  have hlt : i < (places text.toList ts).length := (List.getElem?_eq_some_iff.1 ho).1
  exact (List.getElem?_inj hlt (hcuts.pairwise_places.imp Nat.ne_of_lt)).1 (by rw [ho, ho', hoo'])

theorem parseTask_of_readDocument {d : Document} (hread : readDocument ts = .ok d) :
    parseTask text = .ok d.task := by
  simp only [parseTask, parseDocument, h, hread]

theorem rejectedAt_of_readDocument {i : Nat} (hi : i ≤ ts.length)
    (hread : readDocument ts = .error ts[i]?) : RejectedAt text ts i := by
  rcases Nat.lt_or_eq_of_le hi with hi | rfl
  · rw [List.getElem?_eq_getElem hi] at hread
    refine ⟨ts[i].offset, ?_, by simp only [parseTask, parseDocument, h, hread]⟩
    rw [places, List.getElem?_append_left (by simpa using hi), List.getElem?_map,
      List.getElem?_eq_getElem hi]
    rfl
  · rw [List.getElem?_eq_none (Nat.le_refl _)] at hread
    refine ⟨text.toList.length, ?_, by simp only [parseTask, parseDocument, h, hread]⟩
    rw [places, List.getElem?_append_right (by simp)]
    simp

end Tokenized

theorem readFrom_of_lexemes_eq {p : Place} {ts us : List Token}
    (h : ts.map Token.lexeme = us.map Token.lexeme) :
    (∃ d, readFrom p ts = .ok d ∧ readFrom p us = .ok d) ∨
      ∃ i ≤ ts.length, readFrom p ts = .error ts[i]? ∧ readFrom p us = .error us[i]? := by
  induction ts generalizing p us with
  | nil =>
    cases List.map_eq_nil_iff.1 h.symm
    cases hd : p.document? with
    | some d => exact .inl ⟨d, by simp [readFrom, hd]⟩
    | none => exact .inr ⟨0, Nat.le_refl 0, by simp [readFrom, hd]⟩
  | cons t ts ih =>
    obtain ⟨u, us, rfl⟩ := List.exists_cons_of_ne_nil (l := us) (by rintro rfl; cases h)
    obtain ⟨hlexeme, hrest⟩ := List.cons.inj h
    simp only [readFrom, hlexeme]
    cases p.step u.lexeme with
    | none => exact .inr ⟨0, Nat.zero_le _, rfl, rfl⟩
    | some q =>
      rcases ih (p := q) hrest with hd | ⟨i, hi, hreads⟩
      · exact .inl hd
      · exact .inr ⟨i + 1, Nat.succ_le_succ hi, by simpa using hreads⟩

/-- Blanks and comments between the tokens change neither their kinds nor their texts. And texts
with the same kinds and texts are read as the same task, or both are rejected, at the same index. -/
theorem layout_irrelevant {text : String} {ts : List Token} (h : tokenize text.toList = .ok ts) :
    (∀ text' : String, LaidOut (ts.map Token.lexeme) text'.toList →
      ∃ ts', tokenize text'.toList = .ok ts' ∧
        ts'.map Token.kindAndText = ts.map Token.kindAndText) ∧
    ∀ (text' : String) (ts' : List Token), tokenize text'.toList = .ok ts' →
      ts'.map Token.kindAndText = ts.map Token.kindAndText →
      (∃ t, parseTask text = .ok t ∧ parseTask text' = .ok t) ∨
        ∃ i, ∀ j, (RejectedAt text ts j ↔ j = i) ∧ (RejectedAt text' ts' j ↔ j = i) := by
  constructor
  · intro text' hlaid
    have hseparable : ∀ x ∈ ts.map Token.lexeme, x.Separable :=
      List.forall_mem_map.2 fun t ht d hd => (tokenize_eq_ok_iff.1 h).readBefore hd t ht
    obtain ⟨ts', hts', hlexemes⟩ := hlaid.exists_tokenize hseparable
    exact ⟨ts', hts', Token.map_kindAndText_eq_iff.2 hlexemes⟩
  · intro text' ts' h' hsame
    have hlexemes := (Token.map_kindAndText_eq_iff.1 hsame).symm
    have hlength : ts.length = ts'.length := by simpa using congrArg List.length hlexemes
    rcases readFrom_of_lexemes_eq (p := .start) hlexemes with ⟨d, hd, hd'⟩ | ⟨i, hi, he, he'⟩
    · exact .inl ⟨d.task, parseTask_of_readDocument h hd, parseTask_of_readDocument h' hd'⟩
    · have hrejected := rejectedAt_of_readDocument h hi he
      have hrejected' := rejectedAt_of_readDocument h' (hlength ▸ hi) he'
      refine .inr ⟨i, fun j => ⟨⟨fun hj => hj.unique h hrejected, ?_⟩,
        ⟨fun hj => hj.unique h' hrejected', ?_⟩⟩⟩
      · rintro rfl
        exact hrejected
      · rintro rfl
        exact hrejected'

def secondArrow : List Lexeme :=
  [.constant "a", .openParen, .anonymous, .comma, .constant "_b", .closeParen, .implies, .var "I",
    .implies, .integer "12", .stop, .outputs]

theorem secondArrow_rejected :
    ∃ ts ts', tokenize "a(_,_b):-I:-12.O:".toList = .ok ts ∧ ts.map Token.lexeme = secondArrow ∧
      tokenize (spaced " %I:\x7b\r".toList secondArrow) = .ok ts' ∧
      ts'.map Token.kindAndText = ts.map Token.kindAndText ∧
      ∀ j, (RejectedAt "a(_,_b):-I:-12.O:" ts j ↔ j = 8) ∧
        (RejectedAt (.ofList (spaced " %I:\x7b\r".toList secondArrow)) ts' j ↔ j = 8) := by
  have h : tokenize "a(_,_b):-I:-12.O:".toList =
      .ok [⟨.constant "a", 0⟩, ⟨.openParen, 1⟩, ⟨.anonymous, 2⟩, ⟨.comma, 3⟩, ⟨.constant "_b", 4⟩,
        ⟨.closeParen, 6⟩, ⟨.implies, 7⟩, ⟨.var "I", 9⟩, ⟨.implies, 10⟩, ⟨.integer "12", 12⟩,
        ⟨.stop, 14⟩, ⟨.outputs, 15⟩] := by cbv
  have hrejected : RejectedAt "a(_,_b):-I:-12.O:" _ 8 :=
    rejectedAt_of_readDocument h (by decide) (by decide)
  have htext : ∀ c ∈ "I:\x7b".toList, isLineEnd c = false := by simp [isLineEnd]
  have hgap : IsLayout " %I:\x7b\r".toList :=
    .blank (c := ' ') (by decide) (.comment htext (c := '\r') (by decide) .nil)
  have hlaid := laidOut_spaced hgap (by decide) secondArrow
  rw [← String.toList_ofList (l := spaced _ _)] at hlaid
  obtain ⟨hlayout, hread⟩ := layout_irrelevant h
  obtain ⟨ts', h', hsame⟩ := hlayout _ hlaid
  refine ⟨_, ts', h, rfl, by rwa [String.toList_ofList] at h', hsame, ?_⟩
  rcases hread _ ts' h' hsame with ⟨t, ht, -⟩ | ⟨i, hi⟩
  · obtain ⟨o, -, herror⟩ := hrejected
    cases herror.symm.trans ht
  · cases (hi 8).1.1 hrejected
    exact hi

end AnswerSetLearning
