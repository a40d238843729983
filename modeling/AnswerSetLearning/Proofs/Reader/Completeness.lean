import AnswerSetLearning.Proofs.Reader.Soundness

namespace AnswerSetLearning

/-! ## Terms -/

@[simp] theorem Argument.argument?_lexeme (a : Argument) : a.lexeme.argument? = some a.text := by
  cases a <;> rfl

@[simp] theorem Operand.operand?_lexeme (o : Operand) : o.lexeme.operand? = some o.text := by
  cases o <;> rfl

structure TermState.Ends (s : TermState) (l : Literal) : Prop where
  literal : s.literal? = some l
  step : ∀ x, x ≠ .openParen → s.step x = none

theorem TermState.ends_name (p : String) : (name p).Ends ⟨p, []⟩ :=
  ⟨rfl, fun x hx => by cases x <;> simp_all [step]⟩

theorem TermState.ends_closed (l : Literal) : (closed l).Ends l := ⟨rfl, fun _ _ => rfl⟩

section Terms

variable {embed : TermState → Place}
  (hembed : ∀ s x s', s.step x = some s' → (embed s).step x = some (embed s'))

include hembed

theorem run_arguments (p : String) (args : List String) (as : List Argument) :
    (embed (.argument p args)).run (as.flatMap fun a => [.comma, a.lexeme]) =
      some (embed (.argument p (args ++ as.map Argument.text))) := by
  induction as generalizing args with
  | nil => simp
  | cons a as ih =>
    have hcomma : (TermState.argument p args).step .comma = some (.comma p args) := rfl
    have ha : (TermState.comma p args).step a.lexeme = some (.argument p (args ++ [a.text])) := by
      simp [TermState.step]
    rw [List.flatMap_cons, List.cons_append, List.cons_append, List.nil_append,
      Place.run_of_step (hembed _ _ _ hcomma), Place.run_of_step (hembed _ _ _ ha), ih]
    simp

theorem run_term (t : TermTree) :
    ∃ s : TermState, s.Ends t.literal ∧ ∀ xs,
      (embed (.name t.predicate)).run (t.lexemes.tail ++ xs) = (embed s).run xs := by
  obtain ⟨p, args⟩ := t
  cases args with
  | none => exact ⟨.name p, TermState.ends_name p, fun _ => rfl⟩
  | some args =>
    refine ⟨.closed ⟨p, args.map Argument.text⟩, TermState.ends_closed _, fun xs => ?_⟩
    have hopen : (TermState.name p).step .openParen = some (.opened p) := rfl
    simp only [TermTree.lexemes, List.tail_cons, List.cons_append, List.append_assoc,
      Place.run_of_step (hembed _ _ _ hopen)]
    cases args with
    | nil => exact Place.run_of_step (hembed (.opened p) .closeParen _ rfl) xs
    | cons a as =>
      have ha : (TermState.opened p).step a.lexeme = some (.argument p [a.text]) := by
        cases a <;> rfl
      have hclose : (TermState.argument p (a.text :: as.map Argument.text)).step .closeParen =
          some (.closed ⟨p, (a :: as).map Argument.text⟩) := rfl
      rw [List.map_cons, separated_cons, List.flatMap_map, List.singleton_append, List.cons_append,
        Place.run_of_step (hembed _ _ _ ha), Place.run_append, run_arguments hembed,
        Option.bind_some]
      exact Place.run_of_step (hembed _ _ _ hclose) xs

end Terms

theorem run_terms (place : List Literal → Place) (inside : List Literal → TermState → Place)
    (hstart : ∀ ls p, (place ls).step (.constant p) = some (inside ls (.name p)))
    (hstep : ∀ ls s x s', s.step x = some s' → (inside ls s).step x = some (inside ls s'))
    (hend : ∀ ls s l x, TermState.step s x = none → s.literal? = some l →
      (inside ls s).step x = (place (ls ++ [l])).step x)
    (ts : List TermTree) (ls : List Literal) {x : Lexeme} (hx : x ≠ .openParen)
    (xs : List Lexeme) :
    (place ls).run (ts.flatMap TermTree.lexemes ++ x :: xs) =
      (place (ls ++ ts.map TermTree.literal)).run (x :: xs) := by
  induction ts generalizing ls with
  | nil => simp
  | cons t ts ih =>
    obtain ⟨s, hs, hrun⟩ := run_term (hstep ls) t
    have hnext : ∃ y ys, ts.flatMap TermTree.lexemes ++ x :: xs = y :: ys ∧ y ≠ .openParen := by
      cases ts with
      | nil => exact ⟨x, xs, rfl, hx⟩
      | cons t ts => exact ⟨_, _, rfl, by simp⟩
    obtain ⟨y, ys, hys, hy⟩ := hnext
    have hy := hend ls s t.literal y (hs.step y hy) hs.literal
    calc (place ls).run ((t :: ts).flatMap TermTree.lexemes ++ x :: xs)
        = (place ls).run (.constant t.predicate :: (t.lexemes.tail ++ y :: ys)) := by
          rw [List.flatMap_cons, List.append_assoc, hys]
          rfl
      _ = (inside ls s).run (y :: ys) := by rw [Place.run_of_step (hstart ls _), hrun]
      _ = (place (ls ++ [t.literal])).run (ts.flatMap TermTree.lexemes ++ x :: xs) := by
          rw [Place.run_cons, hy, hys, Place.run_cons]
      _ = (place (ls ++ (t :: ts).map TermTree.literal)).run (x :: xs) := by
          rw [ih, List.append_assoc]
          rfl

/-! ## Rules -/

section Rules

variable {d : Document}

theorem step_head {s s' : TermState} {x : Lexeme} (h : s.step x = some s') :
    (Place.rule d (.head s)).step x = some (.rule d (.head s')) := by
  simp [Place.step, RuleState.step, h, Place.afterRule]

theorem step_atom {dr : RuleDraft} {negated : Bool} {s s' : TermState} {x : Lexeme}
    (h : s.step x = some s') :
    (Place.rule d (.atom dr negated s)).step x = some (.rule d (.atom dr negated s')) := by
  simp [Place.step, RuleState.step, RuleState.stepAtom, h, Place.afterRule]

theorem step_atom_of_ends {dr : RuleDraft} {negated : Bool} {s : TermState} {l : Literal}
    (hs : s.Ends l) {x : Lexeme} (hx : x ≠ .openParen) :
    (Place.rule d (.atom dr negated s)).step x =
      (RuleState.stepElementEnd (dr.add (.atom negated l)) x).map (Place.afterRule d) := by
  simp [Place.step, RuleState.step, RuleState.stepAtom, hs.step x hx, hs.literal]

theorem run_negation {dr : RuleDraft} {xs : List Lexeme} (hxs : Follows (∀ p, · ≠ .constant p) xs)
    (hne : xs ≠ []) :
    (Place.rule d (.negation dr)).run xs =
      (Place.rule d (.atom dr false (.name "not"))).run xs := by
  cases xs with
  | nil => exact absurd rfl hne
  | cons x xs =>
    have hstep : (RuleState.negation dr).step x =
        (RuleState.atom dr false (.name "not")).step x := by
      cases x with
      | constant p => exact absurd rfl (follows_cons.1 hxs p)
      | _ => rfl
    simp [Place.run_cons, Place.step, hstep]

theorem run_atom (negated : Bool) (t : TermTree) (dr : RuleDraft) {x : Lexeme}
    (hx : x = .comma ∨ x = .stop) (xs : List Lexeme) :
    (Place.rule d (.atom dr negated (.name t.predicate))).run (t.lexemes.tail ++ x :: xs) =
      ((RuleState.stepElementEnd (dr.add (.atom negated t.literal)) x).map
        (Place.afterRule d)).bind (Place.run · xs) := by
  have hparen : x ≠ .openParen := by rcases hx with rfl | rfl <;> simp
  have hembed (s : TermState) (x : Lexeme) (s' : TermState) (h : s.step x = some s') :
      (Place.rule d (.atom dr negated s)).step x = some (.rule d (.atom dr negated s')) :=
    step_atom h
  obtain ⟨s, hs, hrun⟩ := run_term hembed t
  rw [hrun, Place.run_cons, step_atom_of_ends hs hparen]

theorem run_element (e : ElementTree) (dr : RuleDraft) {x : Lexeme} (hx : x = .comma ∨ x = .stop)
    (xs : List Lexeme) :
    (Place.rule d (.element dr)).run (e.lexemes ++ x :: xs) =
      ((RuleState.stepElementEnd (dr.add e.element) x).map (Place.afterRule d)).bind
        (Place.run · xs) := by
  cases e with
  | atom t =>
    by_cases hnot : t.predicate = "not"
    · have hstep : (Place.rule d (.element dr)).step (.constant t.predicate) =
          some (.rule d (.negation dr)) := by
        simp [Place.step, RuleState.step, hnot, Place.afterRule]
      have htail : Follows (∀ p, · ≠ .constant p) (t.lexemes.tail ++ x :: xs) := by
        rcases t with ⟨p, _ | args⟩
        · rcases hx with rfl | rfl <;> simp [TermTree.lexemes, follows_cons]
        · simp [TermTree.lexemes, follows_cons]
      calc (Place.rule d (.element dr)).run (t.lexemes ++ x :: xs)
          = (Place.rule d (.negation dr)).run (t.lexemes.tail ++ x :: xs) :=
            Place.run_of_step hstep _
        _ = (Place.rule d (.atom dr false (.name t.predicate))).run
            (t.lexemes.tail ++ x :: xs) := by
            rw [run_negation htail (by simp), hnot]
        _ = _ := run_atom false t dr hx xs
    · have hstep : (Place.rule d (.element dr)).step (.constant t.predicate) =
          some (.rule d (.atom dr false (.name t.predicate))) := by
        simp [Place.step, RuleState.step, hnot, Place.afterRule]
      exact (Place.run_of_step hstep _).trans (run_atom false t dr hx xs)
  | negation t =>
    have hnot : (Place.rule d (.element dr)).step (.constant "not") =
        some (.rule d (.negation dr)) := rfl
    have hstep : (Place.rule d (.negation dr)).step (.constant t.predicate) =
        some (.rule d (.atom dr true (.name t.predicate))) := rfl
    calc (Place.rule d (.element dr)).run (.constant "not" :: t.lexemes ++ x :: xs)
        = (Place.rule d (.negation dr)).run (t.lexemes ++ x :: xs) := Place.run_of_step hnot _
      _ = (Place.rule d (.atom dr true (.name t.predicate))).run (t.lexemes.tail ++ x :: xs) :=
          Place.run_of_step hstep _
      _ = _ := run_atom true t dr hx xs
  | comparison left r right =>
    have hleft : (Place.rule d (.element dr)).step left.lexeme =
        some (.rule d (.operand dr left.text)) := by
      cases left <;> rfl
    have hright : (Place.rule d (.relation dr left.text r)).step right.lexeme =
        some (.rule d (.compared (dr.add (.comparison r left.text right.text)))) := by
      cases right <;> rfl
    have hrelation : (Place.rule d (.operand dr left.text)).step (.relation r) =
        some (.rule d (.relation dr left.text r)) := rfl
    simp only [ElementTree.lexemes, List.cons_append, List.nil_append]
    rw [Place.run_of_step hleft, Place.run_of_step hrelation, Place.run_of_step hright,
      Place.run_cons]
    rfl

theorem run_body (e : ElementTree) (es : List ElementTree) (dr : RuleDraft) (xs : List Lexeme) :
    (Place.rule d (.element dr)).run
        (separated ((e :: es).map ElementTree.lexemes) ++ .stop :: xs) =
      (Place.rules (d.addRule
        ⟨dr.head, dr.body ++ (e :: es).map ElementTree.element⟩)).run xs := by
  induction es generalizing e dr with
  | nil =>
    rw [List.map_singleton, separated_cons, List.flatMap_nil, List.append_nil,
      run_element e dr (.inr rfl)]
    rfl
  | cons e' es ih =>
    have hsplit : separated ((e :: e' :: es).map ElementTree.lexemes) ++ .stop :: xs =
        e.lexemes ++ .comma :: (separated ((e' :: es).map ElementTree.lexemes) ++ .stop :: xs) := by
      simp [separated_cons]
    have hcomma : (RuleState.stepElementEnd (dr.add e.element) .comma).map (Place.afterRule d) =
        some (.rule d (.element (dr.add e.element))) := rfl
    rw [hsplit, run_element e dr (.inl rfl), hcomma, Option.bind_some, ih]
    simp [RuleDraft.add]

theorem run_rule (r : RuleTree) (xs : List Lexeme) :
    (Place.rules d).run (r.lexemes ++ xs) = (Place.rules (d.addRule r.rule)).run xs := by
  have hterm (t : TermTree) (x : Lexeme) (hx : x ≠ .openParen) (ys : List Lexeme) :
      ∃ s : TermState, s.Ends t.literal ∧
        (Place.rules d).run (t.lexemes ++ x :: ys) = (Place.rule d (.head s)).run (x :: ys) := by
    obtain ⟨s, hs, hrun⟩ := run_term (fun _ _ _ => step_head) t
    have hstart : (Place.rules d).step (.constant t.predicate) =
        some (.rule d (.head (.name t.predicate))) := rfl
    exact ⟨s, hs, (Place.run_of_step hstart _).trans (hrun _)⟩
  cases r with
  | fact t =>
    obtain ⟨s, hs, hrun⟩ := hterm t .stop (by simp) xs
    have hstop : (Place.rule d (.head s)).step .stop =
        some (.rules (d.addRule ⟨some t.literal, []⟩)) := by
      simp [Place.step, RuleState.step, hs.step, hs.literal, Place.afterRule]
    rw [RuleTree.lexemes, List.append_assoc, List.singleton_append, hrun,
      Place.run_of_step hstop]
    rfl
  | clause head body hne =>
    obtain ⟨e, es, rfl⟩ := List.exists_cons_of_ne_nil hne
    have hhead : ∀ ys, (Place.rules d).run (head.elim [] TermTree.lexemes ++ .implies :: ys) =
        (Place.rule d (.element ⟨head.map TermTree.literal, []⟩)).run ys := by
      intro ys
      cases head with
      | none => rfl
      | some t =>
        obtain ⟨s, hs, hrun⟩ := hterm t .implies (by simp) ys
        have himplies : (Place.rule d (.head s)).step .implies =
            some (.rule d (.element ⟨some t.literal, []⟩)) := by
          simp [Place.step, RuleState.step, hs.step, hs.literal, Place.afterRule]
        exact hrun.trans (Place.run_of_step himplies ys)
    simp only [RuleTree.lexemes, List.append_assoc, List.cons_append, List.nil_append]
    rw [hhead, run_body]
    rfl

theorem run_rules (rs : List RuleTree) (xs : List Lexeme) :
    (Place.rules d).run (rs.flatMap RuleTree.lexemes ++ xs) =
      (Place.rules { d with rules := d.rules ++ rs.map RuleTree.rule }).run xs := by
  induction rs generalizing d with
  | nil => simp
  | cons r rs ih => rw [List.flatMap_cons, List.append_assoc, run_rule, ih]; simp [Document.addRule]

end Rules

/-! ## Examples -/

section Scenarios

variable {d : Document}

theorem run_facts (ts : List TermTree) (xs : List Lexeme) :
    (Place.scenario d (.facts [])).run (ts.flatMap TermTree.lexemes ++ .outputs :: xs) =
      (Place.scenario d (.answers ⟨ts.map TermTree.literal, []⟩)).run xs := by
  refine (run_terms (fun fs => .scenario d (.facts fs)) (fun fs s => .scenario d (.fact fs s))
    ?_ ?_ ?_ ts [] (by simp) xs).trans ?_
  · exact fun _ _ => rfl
  · intro fs s x s' h
    simp [Place.step, ScenarioState.step, h, Place.afterScenario]
  · intro fs s l x h hl
    simp [Place.step, ScenarioState.step, h, hl]
  · rfl

theorem run_answer (draft : Scenario) (ts : List TermTree) (xs : List Lexeme) :
    (Place.scenario d (.answers draft)).run (ScenarioTree.answerLexemes ts ++ xs) =
      (Place.scenario d (.answers { draft with
        answers := draft.answers ++ [ts.map TermTree.literal] })).run xs := by
  have hopen : (Place.scenario d (.answers draft)).step .openBrace =
      some (.scenario d (.answer draft [])) := rfl
  simp only [ScenarioTree.answerLexemes, List.cons_append, List.append_assoc, List.nil_append]
  rw [Place.run_of_step hopen]
  refine (run_terms (fun set => .scenario d (.answer draft set))
    (fun set s => .scenario d (.member draft set s)) ?_ ?_ ?_ ts [] (by simp) xs).trans ?_
  · exact fun _ _ => rfl
  · intro set s x s' h
    simp [Place.step, ScenarioState.step, h, Place.afterScenario]
  · intro set s l x h hl
    simp [Place.step, ScenarioState.step, h, hl]
  · rfl

theorem run_answers (draft : Scenario) (as : List (List TermTree)) (xs : List Lexeme) :
    (Place.scenario d (.answers draft)).run (as.flatMap ScenarioTree.answerLexemes ++ xs) =
      (Place.scenario d (.answers { draft with
        answers := draft.answers ++ as.map (·.map TermTree.literal) })).run xs := by
  induction as generalizing draft with
  | nil => simp
  | cons a as ih => rw [List.flatMap_cons, List.append_assoc, run_answer, ih]; simp

structure Place.Rests (p : Place) (d : Document) : Prop where
  document : p.document? = some d
  step : p.step .input = some (.scenario d (.facts []))

theorem run_scenario {p : Place} (hp : p.Rests d) (s : ScenarioTree) (xs : List Lexeme) :
    p.run (s.lexemes ++ xs) = (Place.scenario d (.answers s.scenario)).run xs := by
  simp only [ScenarioTree.lexemes, List.cons_append, List.append_assoc]
  rw [Place.run_of_step hp.step, run_facts, run_answers]
  rfl

theorem run_scenarios {p : Place} (hp : p.Rests d) (ss : List ScenarioTree) :
    ∃ q, p.run (ss.flatMap ScenarioTree.lexemes) = some q ∧
      q.Rests { d with scenarios := d.scenarios ++ ss.map ScenarioTree.scenario } := by
  induction ss generalizing p d with
  | nil => exact ⟨p, rfl, by simpa using hp⟩
  | cons s ss ih =>
    have hrests : (Place.scenario d (.answers s.scenario)).Rests (d.addScenario s.scenario) :=
      ⟨rfl, rfl⟩
    obtain ⟨q, hq, hrests⟩ := ih hrests
    refine ⟨q, ?_, by simpa [Document.addScenario] using hrests⟩
    rw [List.flatMap_cons, run_scenario hp, hq]

end Scenarios

end AnswerSetLearning
