import AnswerSetLearning.Proofs.Reader.Derivation

namespace AnswerSetLearning

namespace Place

def run (p : Place) (xs : List Lexeme) : Option Place := xs.foldlM step p

@[simp] theorem run_nil (p : Place) : p.run [] = some p := rfl

theorem run_cons (p : Place) (x : Lexeme) (xs : List Lexeme) :
    p.run (x :: xs) = (p.step x).bind (run · xs) := rfl

theorem run_append (p : Place) (xs ys : List Lexeme) :
    p.run (xs ++ ys) = (p.run xs).bind (run · ys) := List.foldlM_append

theorem run_of_step {p q : Place} {x : Lexeme} (h : p.step x = some q) (xs : List Lexeme) :
    p.run (x :: xs) = q.run xs := by
  rw [run_cons, h, Option.bind_some]

end Place

/-! ## Terms -/

theorem exists_argument {x : Lexeme} {s : String} (h : x.argument? = some s) :
    ∃ a : Argument, a.lexeme = x ∧ a.text = s := by
  cases x with
  | integer digits => exact ⟨.integer digits, rfl, Option.some.inj h⟩
  | var name => exact ⟨.var name, rfl, Option.some.inj h⟩
  | constant name => exact ⟨.constant name, rfl, Option.some.inj h⟩
  | anonymous => exact ⟨.anonymous, rfl, Option.some.inj h⟩
  | _ => cases h

theorem exists_operand {x : Lexeme} {s : String} (h : x.operand? = some s) :
    ∃ o : Operand, o.lexeme = x ∧ o.text = s := by
  cases x with
  | integer digits => exact ⟨.integer digits, rfl, Option.some.inj h⟩
  | var name => exact ⟨.var name, rfl, Option.some.inj h⟩
  | _ => cases h

namespace TermState

def Spells : TermState → List Lexeme → Prop
  | name p, xs => xs = [.constant p]
  | opened p, xs => xs = [.constant p, .openParen]
  | argument p args, xs => ∃ as : List Argument, as ≠ [] ∧ as.map Argument.text = args ∧
      xs = .constant p :: .openParen :: separated (as.map fun a => [a.lexeme])
  | comma p args, xs => ∃ as : List Argument, as.map Argument.text = args ∧
      xs = .constant p :: .openParen :: as.flatMap fun a => [a.lexeme, .comma]
  | closed l, xs => ∃ t : TermTree, t.literal = l ∧ t.lexemes = xs

theorem Spells.step {t t' : TermState} {xs : List Lexeme} {x : Lexeme} (h : t.Spells xs)
    (hstep : t.step x = some t') : t'.Spells (xs ++ [x]) := by
  have hargument {p : String} (as : List Argument)
      (hxs : xs = .constant p :: .openParen :: as.flatMap fun a => [a.lexeme, .comma])
      (h : (x.argument?.map fun a => argument p (as.map Argument.text ++ [a])) = some t') :
      t'.Spells (xs ++ [x]) := by
    obtain ⟨s, hs, rfl⟩ := Option.map_eq_some_iff.1 h
    obtain ⟨a, rfl, rfl⟩ := exists_argument hs
    exact ⟨as ++ [a], by simp, by simp, by simp [hxs, separated_concat, List.flatMap_map]⟩
  unfold TermState.step at hstep
  split at hstep
  · cases hstep
    exact congrArg (· ++ [.openParen]) h
  · cases hstep
    cases h
    exact ⟨⟨_, some []⟩, rfl, rfl⟩
  · cases h
    exact hargument [] rfl hstep
  · cases hstep
    obtain ⟨as, hne, rfl, rfl⟩ := h
    have hwords : (as.map fun a => [a.lexeme]) ≠ [] := by simpa using hne
    exact ⟨as, rfl, by simpa [List.flatMap_map] using separated_append_comma hwords⟩
  · cases hstep
    obtain ⟨as, -, rfl, rfl⟩ := h
    exact ⟨⟨_, some as⟩, rfl, rfl⟩
  · obtain ⟨as, rfl, hxs⟩ := h
    exact hargument as hxs hstep
  · cases hstep

theorem Spells.literal {t : TermState} {xs : List Lexeme} {l : Literal} (h : t.Spells xs)
    (hl : t.literal? = some l) : ∃ t : TermTree, t.literal = l ∧ t.lexemes = xs := by
  unfold literal? at hl
  split at hl
  · cases hl
    cases h
    exact ⟨⟨_, none⟩, rfl, rfl⟩
  · cases hl
    exact h
  · cases hl

end TermState

/-! ## Rules -/

namespace RuleDraft

def Spells (d : RuleDraft) (xs : List Lexeme) : Prop :=
  ∃ (head : Option TermTree) (body : List ElementTree), body ≠ [] ∧
    d = ⟨head.map TermTree.literal, body.map ElementTree.element⟩ ∧
    xs = head.elim [] TermTree.lexemes ++ .implies :: separated (body.map ElementTree.lexemes)

def Opens (d : RuleDraft) (xs : List Lexeme) : Prop :=
  ∃ (head : Option TermTree) (body : List ElementTree),
    d = ⟨head.map TermTree.literal, body.map ElementTree.element⟩ ∧
    xs = head.elim [] TermTree.lexemes ++ .implies :: body.flatMap (·.lexemes ++ [.comma])

theorem Opens.add {d : RuleDraft} {xs : List Lexeme} (h : d.Opens xs) (e : ElementTree) :
    (d.add e.element).Spells (xs ++ e.lexemes) := by
  obtain ⟨head, body, rfl, rfl⟩ := h
  exact ⟨head, body ++ [e], by simp, by simp [RuleDraft.add],
    by simp [separated_concat, List.flatMap_map]⟩

end RuleDraft

namespace RuleState

def Spells : RuleState → List Lexeme → Prop
  | head t, xs => t.Spells xs
  | element d, xs => d.Opens xs
  | negation d, xs => ∃ ys, d.Opens ys ∧ xs = ys ++ [.constant "not"]
  | atom d false t, xs => ∃ ys zs, d.Opens ys ∧ t.Spells zs ∧ xs = ys ++ zs
  | atom d true t, xs => ∃ ys zs, d.Opens ys ∧ t.Spells zs ∧ xs = ys ++ .constant "not" :: zs
  | operand d left, xs => ∃ ys, ∃ o : Operand, d.Opens ys ∧ o.text = left ∧
      xs = ys ++ [o.lexeme]
  | relation d left r, xs => ∃ ys, ∃ o : Operand, d.Opens ys ∧ o.text = left ∧
      xs = ys ++ [o.lexeme, .relation r]
  | compared d, xs => d.Spells xs

end RuleState

def RuleStep.Spells : RuleStep → List Lexeme → Prop
  | inside s, xs => s.Spells xs
  | done r, xs => ∃ t : RuleTree, t.rule = r ∧ t.lexemes = xs

namespace RuleState

theorem spells_stepElementEnd {d : RuleDraft} {xs : List Lexeme} {x : Lexeme} {s : RuleStep}
    (h : d.Spells xs) (hstep : stepElementEnd d x = some s) : s.Spells (xs ++ [x]) := by
  obtain ⟨head, body, hne, rfl, rfl⟩ := h
  unfold stepElementEnd at hstep
  split at hstep
  · cases hstep
    have hwords : body.map ElementTree.lexemes ≠ [] := by simpa using hne
    exact ⟨head, body, rfl, by simpa [List.flatMap_map] using separated_append_comma hwords⟩
  · cases hstep
    exact ⟨.clause head body hne, rfl, by simp [RuleTree.lexemes]⟩
  · cases hstep

theorem spells_stepAtom {d : RuleDraft} {negated : Bool} {t : TermState} {xs : List Lexeme}
    {x : Lexeme} {s : RuleStep} (h : (atom d negated t).Spells xs)
    (hstep : stepAtom d negated t x = some s) : s.Spells (xs ++ [x]) := by
  unfold stepAtom at hstep
  split at hstep
  · next t' ht =>
    cases hstep
    cases negated with
    | false =>
      obtain ⟨ys, zs, hys, hzs, rfl⟩ := h
      exact ⟨ys, zs ++ [x], hys, hzs.step ht, by simp⟩
    | true =>
      obtain ⟨ys, zs, hys, hzs, rfl⟩ := h
      exact ⟨ys, zs ++ [x], hys, hzs.step ht, by simp⟩
  · obtain ⟨l, hl, hstep⟩ := Option.bind_eq_some_iff.1 hstep
    refine spells_stepElementEnd ?_ hstep
    cases negated with
    | false =>
      obtain ⟨ys, zs, hys, hzs, rfl⟩ := h
      obtain ⟨t, rfl, rfl⟩ := hzs.literal hl
      exact hys.add (.atom t)
    | true =>
      obtain ⟨ys, zs, hys, hzs, rfl⟩ := h
      obtain ⟨t, rfl, rfl⟩ := hzs.literal hl
      exact hys.add (.negation t)

theorem Spells.step {s : RuleState} {xs : List Lexeme} {x : Lexeme} {s' : RuleStep}
    (h : s.Spells xs) (hstep : s.step x = some s') : s'.Spells (xs ++ [x]) := by
  unfold RuleState.step at hstep
  split at hstep
  · split at hstep
    · next ht =>
      cases hstep
      exact TermState.Spells.step h ht
    · obtain ⟨l, hl, hstep⟩ := Option.bind_eq_some_iff.1 hstep
      obtain ⟨t, rfl, rfl⟩ := TermState.Spells.literal h hl
      split at hstep
      · cases hstep
        exact ⟨.fact t, rfl, rfl⟩
      · cases hstep
        exact ⟨some t, [], rfl, rfl⟩
      · cases hstep
  · split at hstep
    · next hnot =>
      cases hstep
      exact ⟨xs, h, by rw [hnot]⟩
    · cases hstep
      exact ⟨xs, _, h, rfl, rfl⟩
  · obtain ⟨left, hleft, rfl⟩ := Option.map_eq_some_iff.1 hstep
    obtain ⟨o, rfl, rfl⟩ := exists_operand hleft
    exact ⟨xs, o, h, rfl, rfl⟩
  · cases hstep
    obtain ⟨ys, hys, rfl⟩ := h
    exact ⟨ys, [.constant _], hys, rfl, by simp⟩
  · next d _ =>
    obtain ⟨ys, hys, rfl⟩ := h
    have hatom : (atom d false (.name "not")).Spells (ys ++ [.constant "not"]) :=
      ⟨ys, [.constant "not"], hys, rfl, rfl⟩
    exact spells_stepAtom hatom hstep
  · exact spells_stepAtom h hstep
  · cases hstep
    obtain ⟨ys, o, hys, rfl, rfl⟩ := h
    exact ⟨ys, o, hys, rfl, by simp⟩
  · cases hstep
  · next r =>
    obtain ⟨right, hright, rfl⟩ := Option.map_eq_some_iff.1 hstep
    obtain ⟨ys, o, hys, rfl, rfl⟩ := h
    obtain ⟨o', rfl, rfl⟩ := exists_operand hright
    have hadd := hys.add (.comparison o r o')
    simpa [RuleStep.Spells, Spells, ElementTree.lexemes, ElementTree.element] using hadd
  · exact spells_stepElementEnd h hstep

end RuleState

/-! ## Examples -/

namespace ScenarioState

def Spells : ScenarioState → List Lexeme → Prop
  | facts fs, xs => ∃ ts : List TermTree, ts.map TermTree.literal = fs ∧
      xs = .input :: ts.flatMap TermTree.lexemes
  | fact fs t, xs => ∃ ts : List TermTree, ts.map TermTree.literal = fs ∧ ∃ zs, t.Spells zs ∧
      xs = .input :: (ts.flatMap TermTree.lexemes ++ zs)
  | answers d, xs => ∃ s : ScenarioTree, s.scenario = d ∧ s.lexemes = xs
  | answer d set, xs => ∃ s : ScenarioTree, s.scenario = d ∧ ∃ ts : List TermTree,
      ts.map TermTree.literal = set ∧
      xs = s.lexemes ++ .openBrace :: ts.flatMap TermTree.lexemes
  | member d set t, xs => ∃ s : ScenarioTree, s.scenario = d ∧ ∃ ts : List TermTree,
      ts.map TermTree.literal = set ∧ ∃ zs, t.Spells zs ∧
      xs = s.lexemes ++ .openBrace :: (ts.flatMap TermTree.lexemes ++ zs)

end ScenarioState

def ScenarioStep.Spells : ScenarioStep → List Lexeme → Prop
  | inside s, xs => s.Spells xs
  | next done, xs => ∃ s : ScenarioTree, s.scenario = done ∧ s.lexemes ++ [.input] = xs

namespace ScenarioState

theorem spells_stepFacts {fs : List Literal} {xs : List Lexeme} {x : Lexeme} {s : ScenarioStep}
    (h : (facts fs).Spells xs) (hstep : stepFacts fs x = some s) : s.Spells (xs ++ [x]) := by
  obtain ⟨ts, rfl, rfl⟩ := h
  unfold stepFacts at hstep
  split at hstep
  · cases hstep
    exact ⟨ts, rfl, _, rfl, rfl⟩
  · cases hstep
    exact ⟨⟨ts, []⟩, rfl, rfl⟩
  · cases hstep

theorem spells_stepAnswer {d : Scenario} {set : List Literal} {xs : List Lexeme} {x : Lexeme}
    {s : ScenarioStep} (h : (answer d set).Spells xs) (hstep : stepAnswer d set x = some s) :
    s.Spells (xs ++ [x]) := by
  obtain ⟨s, rfl, ts, rfl, rfl⟩ := h
  unfold stepAnswer at hstep
  split at hstep
  · cases hstep
    exact ⟨s, rfl, ts, rfl, _, rfl, by simp⟩
  · cases hstep
    exact ⟨⟨s.facts, s.answers ++ [ts]⟩, by simp [ScenarioTree.scenario],
      by simp [ScenarioTree.lexemes, ScenarioTree.answerLexemes]⟩
  · cases hstep

theorem Spells.step {s : ScenarioState} {xs : List Lexeme} {x : Lexeme} {s' : ScenarioStep}
    (h : s.Spells xs) (hstep : s.step x = some s') : s'.Spells (xs ++ [x]) := by
  unfold ScenarioState.step at hstep
  split at hstep
  · exact spells_stepFacts h hstep
  · obtain ⟨ts, rfl, zs, hzs, rfl⟩ := h
    split at hstep
    · next ht =>
      cases hstep
      exact ⟨ts, rfl, zs ++ [x], hzs.step ht, by simp⟩
    · obtain ⟨l, hl, hstep⟩ := Option.bind_eq_some_iff.1 hstep
      obtain ⟨t, rfl, rfl⟩ := hzs.literal hl
      exact spells_stepFacts ⟨ts ++ [t], by simp, by simp⟩ hstep
  · cases hstep
    obtain ⟨s, rfl, rfl⟩ := h
    exact ⟨s, rfl, [], rfl, rfl⟩
  · cases hstep
    obtain ⟨s, rfl, rfl⟩ := h
    exact ⟨s, rfl, rfl⟩
  · cases hstep
  · exact spells_stepAnswer h hstep
  · obtain ⟨s, rfl, ts, rfl, zs, hzs, rfl⟩ := h
    split at hstep
    · next ht =>
      cases hstep
      exact ⟨s, rfl, ts, rfl, zs ++ [x], hzs.step ht, by simp⟩
    · obtain ⟨l, hl, hstep⟩ := Option.bind_eq_some_iff.1 hstep
      obtain ⟨t, rfl, rfl⟩ := hzs.literal hl
      exact spells_stepAnswer ⟨s, rfl, ts ++ [t], by simp, by simp⟩ hstep

end ScenarioState

/-! ## Documents -/

namespace Place

def Spells : Place → List Lexeme → Prop
  | rules d, xs => ∃ rs : List RuleTree, d = (DocumentTree.mk rs []).document ∧
      xs = (DocumentTree.mk rs []).lexemes
  | rule d s, xs => ∃ rs : List RuleTree, d = (DocumentTree.mk rs []).document ∧
      ∃ zs, s.Spells zs ∧ xs = (DocumentTree.mk rs []).lexemes ++ zs
  | scenario d s, xs => ∃ t : DocumentTree, d = t.document ∧
      ∃ zs, s.Spells zs ∧ xs = t.lexemes ++ zs

theorem spells_start : start.Spells [] := ⟨[], rfl, rfl⟩

theorem Spells.step {p q : Place} {xs : List Lexeme} {x : Lexeme} (h : p.Spells xs)
    (hstep : p.step x = some q) : q.Spells (xs ++ [x]) := by
  unfold Place.step at hstep
  split at hstep
  · cases hstep
    obtain ⟨rs, rfl, rfl⟩ := h
    exact ⟨rs, rfl, _, rfl, rfl⟩
  · cases hstep
    obtain ⟨rs, rfl, rfl⟩ := h
    exact ⟨rs, rfl, _, ⟨none, [], rfl, rfl⟩, rfl⟩
  · cases hstep
    obtain ⟨rs, rfl, rfl⟩ := h
    exact ⟨⟨rs, []⟩, rfl, _, ⟨[], rfl, rfl⟩, rfl⟩
  · cases hstep
  · obtain ⟨s, hs, rfl⟩ := Option.map_eq_some_iff.1 hstep
    obtain ⟨rs, rfl, zs, hzs, rfl⟩ := h
    have hspells := hzs.step hs
    cases s with
    | inside s => exact ⟨rs, rfl, zs ++ [x], hspells, by simp⟩
    | done r =>
      obtain ⟨t, rfl, ht⟩ := hspells
      exact ⟨rs ++ [t], by simp [Document.addRule, DocumentTree.document],
        by simp [DocumentTree.lexemes, ht]⟩
  · obtain ⟨s, hs, rfl⟩ := Option.map_eq_some_iff.1 hstep
    obtain ⟨t, rfl, zs, hzs, rfl⟩ := h
    have hspells := hzs.step hs
    cases s with
    | inside s => exact ⟨t, rfl, zs ++ [x], hspells, by simp⟩
    | next d =>
      obtain ⟨s, rfl, hxs⟩ := hspells
      refine ⟨⟨t.rules, t.scenarios ++ [s]⟩, ?_, [.input], ⟨[], rfl, rfl⟩, ?_⟩
      · simp [Document.addScenario, DocumentTree.document]
      · rw [List.append_assoc, ← hxs]
        simp [DocumentTree.lexemes]

theorem Spells.run {p q : Place} {xs ys : List Lexeme} (h : p.Spells xs)
    (hrun : p.run ys = some q) : q.Spells (xs ++ ys) := by
  induction ys generalizing p xs with
  | nil =>
    cases hrun
    simpa using h
  | cons y ys ih =>
    obtain ⟨p', hp', hrun⟩ := Option.bind_eq_some_iff.1 hrun
    simpa using ih (h.step hp') hrun

theorem Spells.document {p : Place} {xs : List Lexeme} {d : Document} (h : p.Spells xs)
    (hd : p.document? = some d) : ∃ t : DocumentTree, t.document = d ∧ t.lexemes = xs := by
  unfold document? at hd
  split at hd
  · cases hd
    obtain ⟨rs, rfl, rfl⟩ := h
    exact ⟨⟨rs, []⟩, rfl, rfl⟩
  · cases hd
    obtain ⟨t, rfl, zs, ⟨s, rfl, rfl⟩, rfl⟩ := h
    exact ⟨⟨t.rules, t.scenarios ++ [s]⟩, by simp [Document.addScenario, DocumentTree.document],
      by simp [DocumentTree.lexemes]⟩
  · cases hd

end Place

end AnswerSetLearning
