import AnswerSetLearning.Proofs.Unambiguity
import AnswerSetLearning.Reader.Grammar

namespace AnswerSetLearning

/-! ## Trees -/

def separated (words : List (List Lexeme)) : List Lexeme := [Lexeme.comma].intercalate words

inductive Argument
  | constant (name : String)
  | var (name : String)
  | integer (digits : String)
  | anonymous

namespace Argument

def lexeme : Argument → Lexeme
  | constant name => .constant name
  | var name => .var name
  | integer digits => .integer digits
  | anonymous => .anonymous

def text (a : Argument) : String := a.lexeme.text

end Argument

inductive Operand
  | var (name : String)
  | integer (digits : String)

namespace Operand

def lexeme : Operand → Lexeme
  | var name => .var name
  | integer digits => .integer digits

def text (o : Operand) : String := o.lexeme.text

end Operand

/-- A term; its parentheses may be missing, or empty. -/
structure TermTree where
  predicate : String
  args : Option (List Argument)

namespace TermTree

def literal (t : TermTree) : Literal := ⟨t.predicate, (t.args.getD []).map Argument.text⟩

def lexemes (t : TermTree) : List Lexeme :=
  .constant t.predicate ::
    match t.args with
    | none => []
    | some args => .openParen :: (separated (args.map fun a => [a.lexeme]) ++ [.closeParen])

end TermTree

inductive ElementTree
  | atom (t : TermTree)
  | negation (t : TermTree)
  | comparison (left : Operand) (r : Relation) (right : Operand)

namespace ElementTree

def element : ElementTree → BodyElement
  | atom t => .atom false t.literal
  | negation t => .atom true t.literal
  | comparison left r right => .comparison r left.text right.text

def lexemes : ElementTree → List Lexeme
  | atom t => t.lexemes
  | negation t => .constant "not" :: t.lexemes
  | comparison left r right => [left.lexeme, .relation r, right.lexeme]

end ElementTree

inductive RuleTree
  | fact (head : TermTree)
  | clause (head : Option TermTree) (body : List ElementTree) (nonempty : body ≠ [])

namespace RuleTree

def body : RuleTree → List ElementTree
  | fact _ => []
  | clause _ body _ => body

def rule : RuleTree → Rule
  | fact head => ⟨some head.literal, []⟩
  | clause head body _ => ⟨head.map TermTree.literal, body.map ElementTree.element⟩

def lexemes : RuleTree → List Lexeme
  | fact head => head.lexemes ++ [.stop]
  | clause head body _ =>
    head.elim [] TermTree.lexemes ++
      .implies :: (separated (body.map ElementTree.lexemes) ++ [.stop])

end RuleTree

structure ScenarioTree where
  facts : List TermTree
  answers : List (List TermTree)

namespace ScenarioTree

def scenario (s : ScenarioTree) : Scenario :=
  ⟨s.facts.map TermTree.literal, s.answers.map (·.map TermTree.literal)⟩

def answerLexemes (set : List TermTree) : List Lexeme :=
  .openBrace :: (set.flatMap TermTree.lexemes ++ [.closeBrace])

def lexemes (s : ScenarioTree) : List Lexeme :=
  .input :: (s.facts.flatMap TermTree.lexemes ++ .outputs :: s.answers.flatMap answerLexemes)

end ScenarioTree

structure DocumentTree where
  rules : List RuleTree
  scenarios : List ScenarioTree

namespace DocumentTree

def document (d : DocumentTree) : Document :=
  ⟨d.rules.map RuleTree.rule, d.scenarios.map ScenarioTree.scenario⟩

def lexemes (d : DocumentTree) : List Lexeme :=
  d.rules.flatMap RuleTree.lexemes ++ d.scenarios.flatMap ScenarioTree.lexemes

end DocumentTree

/-! ## Words with commas between them -/

@[simp] theorem separated_nil : separated [] = [] := rfl

theorem separated_cons (w : List Lexeme) (ws : List (List Lexeme)) :
    separated (w :: ws) = w ++ ws.flatMap (.comma :: ·) :=
  intercalate_cons [Lexeme.comma] w ws

theorem separated_concat (ws : List (List Lexeme)) (w : List Lexeme) :
    separated (ws ++ [w]) = ws.flatMap (· ++ [.comma]) ++ w := by
  cases ws with
  | nil => simp [separated_cons]
  | cons v ws =>
    induction ws generalizing v with
    | nil => simp [separated_cons]
    | cons u ws ih =>
      have ih := ih u
      simp only [List.cons_append, separated_cons, List.flatMap_cons, List.append_assoc] at ih ⊢
      rw [ih]
      rfl

theorem separated_append_comma {ws : List (List Lexeme)} (h : ws ≠ []) :
    separated ws ++ [.comma] = ws.flatMap (· ++ [.comma]) := by
  rw [← List.dropLast_concat_getLast h, separated_concat]
  simp

/-! ## The grammar is unambiguous -/

theorem Argument.lexeme_injective : Function.Injective Argument.lexeme := by
  intro a b h
  cases a <;> cases b <;> simp_all [lexeme]

theorem Operand.lexeme_injective : Function.Injective Operand.lexeme := by
  intro a b h
  cases a <;> cases b <;> simp_all [lexeme]

theorem Operand.lexeme_ne_constant (o : Operand) (p : String) : o.lexeme ≠ .constant p := by
  cases o <;> simp [lexeme]

theorem TermTree.unambiguous : Unambiguous (· ≠ .openParen) TermTree.lexemes := by
  have hargs : Unambiguous (· = .closeParen) fun args : List Argument =>
      separated (args.map fun a => [a.lexeme]) := by
    refine (unambiguous_singleton Argument.lexeme_injective).intercalate [] (fun a => ?_) (by simp)
    exact ⟨a.lexeme, [], rfl, by cases a <;> simp [Argument.lexeme]⟩
  rintro ⟨p, args⟩ ⟨q, args'⟩ xs ys hxs hys h
  simp only [lexemes, List.cons_append, List.cons.injEq, Lexeme.constant.injEq] at h
  obtain ⟨rfl, h⟩ := h
  cases args with
  | none =>
    cases args' with
    | none => exact ⟨rfl, h⟩
    | some args' =>
      subst h
      exact absurd rfl (hxs .openParen rfl)
  | some args =>
    cases args' with
    | none =>
      subst h
      exact absurd rfl (hys .openParen rfl)
    | some args' =>
      simp only [List.cons_append, List.append_assoc, List.cons.injEq, true_and] at h
      obtain ⟨rfl, hend⟩ := hargs (follows_cons.2 rfl) (follows_cons.2 rfl) h
      exact ⟨rfl, (List.cons.inj hend).2⟩

theorem ElementTree.unambiguous :
    Unambiguous (fun x => x = .comma ∨ x = .stop) ElementTree.lexemes := by
  have hnext (x : Lexeme) (hx : x = .comma ∨ x = .stop) : x ≠ .openParen := by
    rcases hx with rfl | rfl <;> simp
  -- after a predicate `not` no constant follows
  have hnot (t t' : TermTree) {xs ys : List Lexeme}
      (hxs : Follows (fun x => x = .comma ∨ x = .stop) xs) :
      t.lexemes ++ xs ≠ .constant "not" :: t'.lexemes ++ ys := by
    rcases t with ⟨p, _ | args⟩
    · intro h
      simp only [TermTree.lexemes, List.cons_append, List.nil_append, List.cons.injEq] at h
      rw [h.2, follows_cons] at hxs
      simp at hxs
    · simp [TermTree.lexemes]
  have hcomparison (t : TermTree) (o : Operand) {xs ys : List Lexeme} :
      t.lexemes ++ xs ≠ o.lexeme :: ys := by
    intro h
    exact o.lexeme_ne_constant _ (List.cons.inj h).1.symm
  intro e e' xs ys hxs hys h
  cases e with
  | atom t =>
    cases e' with
    | atom t' =>
      obtain ⟨rfl, hxy⟩ := TermTree.unambiguous.mono hnext hxs hys h
      exact ⟨rfl, hxy⟩
    | negation t' => exact absurd h (hnot t t' hxs)
    | comparison left r right => exact absurd h (hcomparison t left)
  | negation t =>
    cases e' with
    | atom t' => exact absurd h.symm (hnot t' t hys)
    | negation t' =>
      obtain ⟨rfl, hxy⟩ := TermTree.unambiguous.mono hnext hxs hys (List.cons.inj h).2
      exact ⟨rfl, hxy⟩
    | comparison left r right =>
      exact absurd (List.cons.inj h).1.symm (left.lexeme_ne_constant "not")
  | comparison left r right =>
    cases e' with
    | atom t' => exact absurd h.symm (hcomparison t' left)
    | negation t' => exact absurd (List.cons.inj h).1 (left.lexeme_ne_constant "not")
    | comparison left' r' right' =>
      simp only [lexemes, List.cons_append, List.nil_append, List.cons.injEq,
        Lexeme.relation.injEq] at h
      obtain ⟨hleft, rfl, hright, h⟩ := h
      rw [Operand.lexeme_injective hleft, Operand.lexeme_injective hright]
      exact ⟨rfl, h⟩

theorem ElementTree.exists_lexemes_eq_cons (e : ElementTree) :
    ∃ x xs, e.lexemes = x :: xs ∧ x ≠ .stop := by
  cases e with
  | atom t => exact ⟨_, _, rfl, by simp⟩
  | negation t => exact ⟨_, _, rfl, by simp⟩
  | comparison left r right => exact ⟨_, _, rfl, by cases left <;> simp [Operand.lexeme]⟩

/-- An element that starts with `not` is a negation if a constant comes right after it. Otherwise
`not` is the predicate of an atom. -/
theorem ElementTree.negation_or_atom {e : ElementTree} {xs : List Lexeme}
    (h : e.lexemes = .constant "not" :: xs) :
    (∃ p ys, xs = .constant p :: ys) ∧ (∃ t, e = .negation t) ∨
      (∀ p ys, xs ≠ .constant p :: ys) ∧ ∃ args, e = .atom ⟨"not", args⟩ := by
  cases e with
  | atom t =>
    obtain ⟨p, args⟩ := t
    obtain ⟨hp, rfl⟩ := List.cons.inj h
    cases hp
    exact .inr ⟨fun p ys => by cases args <;> simp, args, rfl⟩
  | negation t =>
    cases h
    exact .inl ⟨⟨_, _, rfl⟩, t, rfl⟩
  | comparison left r right => exact absurd (List.cons.inj h).1 (left.lexeme_ne_constant "not")

theorem RuleTree.unambiguous : Unambiguous (fun _ => True) RuleTree.lexemes := by
  have hbody : Unambiguous (· = .stop) fun body : List ElementTree =>
      separated (body.map ElementTree.lexemes) :=
    ElementTree.unambiguous.intercalate [] ElementTree.exists_lexemes_eq_cons (by simp)
  have hrest {body body' : List ElementTree} {xs ys : List Lexeme}
      (h : separated (body.map ElementTree.lexemes) ++ .stop :: xs =
        separated (body'.map ElementTree.lexemes) ++ .stop :: ys) : body = body' ∧ xs = ys := by
    obtain ⟨rfl, hend⟩ := hbody (follows_cons.2 rfl) (follows_cons.2 rfl) h
    exact ⟨rfl, (List.cons.inj hend).2⟩
  have hhead {t t' : TermTree} {x y : Lexeme} {xs ys : List Lexeme} (hx : x ≠ .openParen)
      (hy : y ≠ .openParen) (h : t.lexemes ++ x :: xs = t'.lexemes ++ y :: ys) :
      t = t' ∧ x = y ∧ xs = ys := by
    obtain ⟨rfl, hend⟩ := TermTree.unambiguous (follows_cons.2 hx) (follows_cons.2 hy) h
    exact ⟨rfl, List.cons.inj hend⟩
  -- What comes after the head tells a fact from a clause.
  intro r r' xs ys _ _ h
  cases r with
  | fact t =>
    cases r' with
    | fact t' =>
      simp only [lexemes, List.append_assoc, List.singleton_append] at h
      obtain ⟨rfl, -, hxy⟩ := hhead (by simp) (by simp) h
      exact ⟨rfl, hxy⟩
    | clause head body hne =>
      cases head with
      | none => simp [lexemes, TermTree.lexemes] at h
      | some t' =>
        simp only [lexemes, List.append_assoc, Option.elim_some, List.cons_append] at h
        exact absurd (hhead (by simp) (by simp) h).2.1 (by simp)
  | clause head body hne =>
    cases r' with
    | fact t' =>
      cases head with
      | none => simp [lexemes, TermTree.lexemes] at h
      | some t =>
        simp only [lexemes, List.append_assoc, Option.elim_some, List.cons_append] at h
        exact absurd (hhead (by simp) (by simp) h).2.1 (by simp)
    | clause head' body' hne' =>
      simp only [lexemes, List.append_assoc, List.cons_append] at h
      cases head with
      | none =>
        cases head' with
        | none =>
          obtain ⟨rfl, hxy⟩ := hrest (List.cons.inj h).2
          exact ⟨rfl, hxy⟩
        | some t' => simp [TermTree.lexemes] at h
      | some t =>
        cases head' with
        | none => simp [TermTree.lexemes] at h
        | some t' =>
          obtain ⟨rfl, -, htail⟩ := hhead (by simp) (by simp) h
          obtain ⟨rfl, hxy⟩ := hrest htail
          exact ⟨rfl, hxy⟩

theorem unambiguous_terms :
    Unambiguous (fun x => x ≠ .openParen ∧ ∀ p, x ≠ .constant p)
      (List.flatMap TermTree.lexemes) := by
  refine TermTree.unambiguous.flatMap (fun x => ∃ p, x = .constant p)
    (fun t => ⟨_, _, rfl, _, rfl⟩) ?_ ?_
  · rintro _ ⟨p, rfl⟩
    simp
  · rintro x ⟨hx, hconstant⟩
    exact ⟨hx, fun ⟨p, hp⟩ => hconstant p hp⟩

theorem ScenarioTree.unambiguous : Unambiguous (· = .input) ScenarioTree.lexemes := by
  have hanswer : Unambiguous (fun _ => True) answerLexemes := by
    intro a b xs ys _ _ h
    simp only [answerLexemes, List.cons_append, List.append_assoc, List.nil_append,
      List.cons.injEq, true_and] at h
    obtain ⟨rfl, hend⟩ :=
      unambiguous_terms (follows_cons.2 (by simp)) (follows_cons.2 (by simp)) h
    exact ⟨rfl, (List.cons.inj hend).2⟩
  have hanswers : Unambiguous (· = .input) (List.flatMap answerLexemes) := by
    refine hanswer.flatMap (· = .openBrace) (fun a => ⟨_, _, rfl, rfl⟩) ?_ ?_
    · simp
    · simp
  rintro ⟨facts, answers⟩ ⟨facts', answers'⟩ xs ys hxs hys h
  simp only [lexemes, List.cons_append, List.append_assoc, List.cons.injEq, true_and] at h
  obtain ⟨rfl, hrest⟩ :=
    unambiguous_terms (follows_cons.2 (by simp)) (follows_cons.2 (by simp)) h
  obtain ⟨rfl, hxy⟩ := hanswers hxs hys (List.cons.inj hrest).2
  exact ⟨rfl, hxy⟩

theorem DocumentTree.lexemes_injective : Function.Injective DocumentTree.lexemes := by
  have hscenarios : Unambiguous (fun _ => False) (List.flatMap ScenarioTree.lexemes) :=
    ScenarioTree.unambiguous.flatMap (· = .input) (fun s => ⟨_, _, rfl, rfl⟩)
      (by simp) (by simp)
  have hrules : Unambiguous (· = .input) (List.flatMap RuleTree.lexemes) := by
    refine RuleTree.unambiguous.flatMap (· ≠ .input) (fun r => ?_) (by simp) (by simp)
    rcases r with t | ⟨_ | t, body, hne⟩
    all_goals exact ⟨_, _, rfl, by simp⟩
  have hinput (ss : List ScenarioTree) :
      Follows (· = .input) (ss.flatMap ScenarioTree.lexemes) := by
    cases ss with
    | nil => simp [Follows]
    | cons s ss => exact follows_cons.2 rfl
  rintro ⟨rules, scenarios⟩ ⟨rules', scenarios'⟩ h
  obtain ⟨rfl, hrest⟩ := hrules (hinput scenarios) (hinput scenarios') h
  obtain ⟨rfl, -⟩ := hscenarios follows_nil follows_nil (congrArg (· ++ []) hrest)
  rfl

end AnswerSetLearning
