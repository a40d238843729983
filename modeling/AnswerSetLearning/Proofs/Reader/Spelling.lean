import AnswerSetLearning.Reader.Parse
import AnswerSetLearning.Solver.Pattern
import Mathlib.Data.List.TakeWhile

namespace AnswerSetLearning

open Solver (isNameOf)

namespace Lexeme

def WellSpelled : Lexeme → Prop
  | integer digits => digits.toList ≠ [] ∧ ∀ c ∈ digits.toList, isDecimalDigit c = true
  | var name => isNameOf isUpperLetter name.toList = true
  | constant name => isNameOf isLowerLetter name.toList = true
  | _ => True

end Lexeme

theorem isNameOf_append {first : Char → Bool} {us rest : List Char} {c : Char}
    (hus : ∀ d ∈ us, isUnderscore d = true) (hc : first c = true)
    (hc' : c ≠ '_' ∧ c ≠ '\'') (hrest : ∀ d ∈ rest, isNameChar d = true) :
    isNameOf first (us ++ c :: rest) = true := by
  have hdrop : (us ++ c :: rest).dropWhile (fun d => d == '_' || d == '\'') = c :: rest := by
    induction us with
    | nil => simp [hc']
    | cons u us ih =>
      have hu : u = '_' := by simpa [isUnderscore] using hus u List.mem_cons_self
      simpa [hu] using ih fun d hd => hus d (List.mem_cons_of_mem u hd)
  simpa [isNameOf, hdrop, hc] using hrest

theorem isAsciiDigit_iff {c : Char} : isAsciiDigit c = true ↔ 48 ≤ c.toNat ∧ c.toNat ≤ 57 := by
  simp [isAsciiDigit, Char.le_def, UInt32.le_iff_toNat_le]

theorem isUpperLetter_iff {c : Char} : isUpperLetter c = true ↔ 65 ≤ c.toNat ∧ c.toNat ≤ 90 := by
  simp [isUpperLetter, Char.le_def, UInt32.le_iff_toNat_le]

theorem isLowerLetter_iff {c : Char} : isLowerLetter c = true ↔ 97 ≤ c.toNat ∧ c.toNat ≤ 122 := by
  simp [isLowerLetter, Char.le_def, UInt32.le_iff_toNat_le]

theorem ne_of_isUpperLetter {c : Char} (h : isUpperLetter c = true) : c ≠ '_' ∧ c ≠ '\'' := by
  constructor <;> rintro rfl <;> simp [isUpperLetter] at h

theorem ne_of_isLowerLetter {c : Char} (h : isLowerLetter c = true) : c ≠ '_' ∧ c ≠ '\'' := by
  constructor <;> rintro rfl <;> simp [isLowerLetter] at h

theorem wellSpelled_of_namePiece? {cs : List Char} {p : Piece} {x : Lexeme}
    (h : namePiece? cs = some p) (hx : p.lexeme? = some x) : x.WellSpelled := by
  have hname {first : Char → Bool} {c : Char} (rest : List Char) (hc : first c = true)
      (hc' : c ≠ '_' ∧ c ≠ '\'') :
      isNameOf first (cs.takeWhile isUnderscore ++ c :: rest.takeWhile isNameChar) = true :=
    isNameOf_append (fun _ => List.mem_takeWhile_imp) hc hc' fun _ => List.mem_takeWhile_imp
  have hunderscore {us : List Char}
      (h : (if us.isEmpty then none else some (Piece.lexeme .anonymous 1)) = some p) :
      x.WellSpelled := by
    split at h
    · cases h
    · cases h
      cases hx
      trivial
  unfold namePiece? at h
  split at h
  · next c rest _ =>
    split at h
    · next hc =>
      cases h
      cases hx
      simpa [Lexeme.WellSpelled] using hname rest hc (ne_of_isUpperLetter hc)
    split at h
    · next hc =>
      cases h
      cases hx
      simpa [Lexeme.WellSpelled] using hname rest hc (ne_of_isLowerLetter hc)
    · exact hunderscore h
  · exact hunderscore h

theorem wellSpelled_of_longPiece? {cs : List Char} {p : Piece} {x : Lexeme}
    (h : longPiece? cs = some p) (hx : p.lexeme? = some x) : x.WellSpelled := by
  unfold longPiece? at h
  split at h
  · cases h
  split at h
  · cases h
    cases hx
  split at h
  · next c cs _ hc =>
    cases h
    cases hx
    rw [Lexeme.WellSpelled, String.toList_ofList, List.takeWhile_cons_of_pos hc]
    refine ⟨List.cons_ne_nil _ _, fun d hd => ?_⟩
    cases List.mem_cons.1 hd with
    | inl hd => exact hd ▸ hc
    | inr hd => exact List.mem_takeWhile_imp hd
  · exact wellSpelled_of_namePiece? h hx

theorem wellSpelled_of_piece? {cs : List Char} {p : Piece} {x : Lexeme}
    (h : piece? cs = some p) (hx : p.lexeme? = some x) : x.WellSpelled := by
  unfold piece? at h
  split at h
  all_goals first | exact wellSpelled_of_longPiece? h hx | (cases h; cases hx)
  all_goals trivial

theorem wellSpelled_of_tokensFrom {offset skip : Nat} {cs : List Char} {ts : List Token}
    (h : tokensFrom offset skip cs = .ok ts) : ∀ t ∈ ts, t.lexeme.WellSpelled := by
  induction offset, skip, cs using tokensFrom.induct generalizing ts with
  | case1 =>
    cases h
    simp
  | case2 offset skip c cs ih => exact ih h
  | case3 offset c cs hp => simp [tokensFrom, hp] at h
  | case4 offset c cs p hp hx ih =>
    simp only [tokensFrom, hp, hx] at h
    exact ih h
  | case5 offset c cs p hp x hx ih =>
    simp only [tokensFrom, hp, hx] at h
    cases hrest : tokensFrom (offset + 1) (p.size - 1) cs with
    | error e => simp [hrest, Except.map] at h
    | ok rest =>
      rw [hrest] at h
      cases h
      simpa [wellSpelled_of_piece? hp hx] using ih hrest

/-! ## Literals -/

structure Literal.WellSpelled (l : Literal) : Prop where
  predicate : isNameOf isLowerLetter l.predicate.toList = true
  args : ∀ a ∈ l.args, ∃ x : Lexeme, x.WellSpelled ∧ x.argument? = some a

def TermState.WellSpelled : TermState → Prop
  | name p | opened p => Literal.WellSpelled ⟨p, []⟩
  | argument p args | comma p args => Literal.WellSpelled ⟨p, args⟩
  | closed l => l.WellSpelled

theorem TermState.WellSpelled.step {t t' : TermState} {x : Lexeme} (ht : t.WellSpelled)
    (hx : x.WellSpelled) (h : t.step x = some t') : t'.WellSpelled := by
  have hargument {p : String} {args : List String} (hl : Literal.WellSpelled ⟨p, args⟩)
      (h : (x.argument?.map fun a => argument p (args ++ [a])) = some t') : t'.WellSpelled := by
    obtain ⟨a, ha, rfl⟩ := Option.map_eq_some_iff.1 h
    refine ⟨hl.predicate, fun b hb => ?_⟩
    cases List.mem_append.1 hb with
    | inl hb => exact hl.args b hb
    | inr hb => exact ⟨x, hx, by rw [ha, List.mem_singleton.1 hb]⟩
  unfold TermState.step at h
  split at h
  · cases h
    exact ht
  · cases h
    exact ht
  · exact hargument (show Literal.WellSpelled ⟨_, []⟩ from ht) h
  · cases h
    exact ht
  · cases h
    exact ht
  · exact hargument ht h
  · cases h

theorem TermState.WellSpelled.literal {t : TermState} {l : Literal} (ht : t.WellSpelled)
    (h : t.literal? = some l) : l.WellSpelled := by
  unfold literal? at h
  split at h
  · cases h
    exact ht
  · cases h
    exact ht
  · cases h

structure Scenario.WellSpelled (s : Scenario) : Prop where
  facts : ∀ l ∈ s.facts, l.WellSpelled
  answers : ∀ a ∈ s.answers, ∀ l ∈ a, l.WellSpelled

def ScenarioState.WellSpelled : ScenarioState → Prop
  | facts fs => ∀ l ∈ fs, l.WellSpelled
  | fact fs t => (∀ l ∈ fs, l.WellSpelled) ∧ t.WellSpelled
  | answers d => d.WellSpelled
  | answer d set => d.WellSpelled ∧ ∀ l ∈ set, l.WellSpelled
  | member d set t => d.WellSpelled ∧ (∀ l ∈ set, l.WellSpelled) ∧ t.WellSpelled

def ScenarioStep.WellSpelled : ScenarioStep → Prop
  | inside s => s.WellSpelled
  | next d => d.WellSpelled

theorem forall_mem_append_singleton {α : Type} {P : α → Prop} {l : List α} {a : α}
    (hl : ∀ b ∈ l, P b) (ha : P a) : ∀ b ∈ l ++ [a], P b := by
  simpa [or_imp, forall_and] using ⟨hl, ha⟩

theorem wellSpelled_of_stepFacts {fs : List Literal} {x : Lexeme} {s : ScenarioStep}
    (hfs : ∀ l ∈ fs, l.WellSpelled) (hx : x.WellSpelled)
    (h : ScenarioState.stepFacts fs x = some s) : s.WellSpelled := by
  unfold ScenarioState.stepFacts at h
  split at h
  · cases h
    exact ⟨hfs, hx, by simp⟩
  · cases h
    exact ⟨hfs, by simp⟩
  · cases h

theorem wellSpelled_of_stepAnswer {d : Scenario} {set : List Literal} {x : Lexeme}
    {s : ScenarioStep} (hd : d.WellSpelled) (hset : ∀ l ∈ set, l.WellSpelled)
    (hx : x.WellSpelled) (h : ScenarioState.stepAnswer d set x = some s) : s.WellSpelled := by
  unfold ScenarioState.stepAnswer at h
  split at h
  · cases h
    exact ⟨hd, hset, hx, by simp⟩
  · cases h
    exact ⟨hd.facts, forall_mem_append_singleton hd.answers hset⟩
  · cases h

theorem ScenarioState.WellSpelled.step {s : ScenarioState} {x : Lexeme} {s' : ScenarioStep}
    (hs : s.WellSpelled) (hx : x.WellSpelled) (h : s.step x = some s') : s'.WellSpelled := by
  unfold ScenarioState.step at h
  split at h
  · exact wellSpelled_of_stepFacts hs hx h
  · split at h
    · next hterm =>
      cases h
      exact ⟨hs.1, hs.2.step hx hterm⟩
    · obtain ⟨l, hl, h⟩ := Option.bind_eq_some_iff.1 h
      exact wellSpelled_of_stepFacts (forall_mem_append_singleton hs.1 (hs.2.literal hl)) hx h
  · cases h
    exact ⟨hs, by simp⟩
  · cases h
    exact hs
  · cases h
  · exact wellSpelled_of_stepAnswer hs.1 hs.2 hx h
  · obtain ⟨hd, hset, ht⟩ := hs
    split at h
    · next hterm =>
      cases h
      exact ⟨hd, hset, ht.step hx hterm⟩
    · obtain ⟨l, hl, h⟩ := Option.bind_eq_some_iff.1 h
      exact wellSpelled_of_stepAnswer hd (forall_mem_append_singleton hset (ht.literal hl)) hx h

/-! ## Documents -/

def Document.WellSpelled (d : Document) : Prop := ∀ s ∈ d.scenarios, s.WellSpelled

def Place.WellSpelled : Place → Prop
  | rules d | rule d _ => d.WellSpelled
  | scenario d s => d.WellSpelled ∧ s.WellSpelled

theorem Place.WellSpelled.step {p p' : Place} {x : Lexeme} (hp : p.WellSpelled)
    (hx : x.WellSpelled) (h : p.step x = some p') : p'.WellSpelled := by
  unfold Place.step at h
  split at h
  · cases h
    exact hp
  · cases h
    exact hp
  · cases h
    exact ⟨hp, by simp [ScenarioState.WellSpelled]⟩
  · cases h
  · obtain ⟨s, -, rfl⟩ := Option.map_eq_some_iff.1 h
    cases s with
    | inside s => exact hp
    | done r => exact hp
  · obtain ⟨s, hs, rfl⟩ := Option.map_eq_some_iff.1 h
    have hs := hp.2.step hx hs
    cases s with
    | inside s => exact ⟨hp.1, hs⟩
    | next d => exact ⟨forall_mem_append_singleton hp.1 hs, by simp [ScenarioState.WellSpelled]⟩

theorem Place.WellSpelled.document {p : Place} {d : Document} (hp : p.WellSpelled)
    (h : p.document? = some d) : d.WellSpelled := by
  unfold document? at h
  split at h
  · cases h
    exact hp
  · cases h
    exact forall_mem_append_singleton hp.1 hp.2
  · cases h

theorem wellSpelled_of_readFrom {p : Place} {ts : List Token} {d : Document} (hp : p.WellSpelled)
    (hts : ∀ t ∈ ts, t.lexeme.WellSpelled) (h : readFrom p ts = .ok d) : d.WellSpelled := by
  induction ts generalizing p with
  | nil =>
    simp only [readFrom] at h
    split at h
    · next hd =>
      cases h
      exact hp.document hd
    · cases h
  | cons t ts ih =>
    simp only [readFrom] at h
    split at h
    · next hstep =>
      have ht := hts t List.mem_cons_self
      exact ih (hp.step ht hstep) (fun u hu => hts u (List.mem_cons_of_mem t hu)) h
    · cases h

theorem wellSpelled_of_parseDocument {cs : List Char} {d : Document}
    (h : parseDocument cs = .ok d) : d.WellSpelled := by
  unfold parseDocument at h
  split at h
  · cases h
  · next ts hts =>
    split at h
    · next hd =>
      cases h
      exact wellSpelled_of_readFrom (by simp [Place.start, Place.WellSpelled, Document.empty,
        Document.WellSpelled]) (wellSpelled_of_tokensFrom hts) hd
    · cases h
    · cases h

end AnswerSetLearning
