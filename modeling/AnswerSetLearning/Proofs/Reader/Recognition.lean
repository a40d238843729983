import AnswerSetLearning.Proofs.Reader.Completeness
import AnswerSetLearning.Proofs.Reader.Document

namespace AnswerSetLearning

theorem exists_run_lexemes (t : DocumentTree) :
    ∃ q, Place.start.run t.lexemes = some q ∧ q.document? = some t.document := by
  have hrests : (Place.rules ⟨t.rules.map RuleTree.rule, []⟩).Rests
      ⟨t.rules.map RuleTree.rule, []⟩ := ⟨rfl, rfl⟩
  obtain ⟨q, hq, hrests⟩ := run_scenarios hrests t.scenarios
  exact ⟨q, (run_rules t.rules _).trans hq, hrests.document⟩

theorem run_start_iff {xs : List Lexeme} {d : Document} :
    (∃ q, Place.start.run xs = some q ∧ q.document? = some d) ↔
      ∃ t : DocumentTree, t.lexemes = xs ∧ t.document = d := by
  constructor
  · rintro ⟨q, hq, hd⟩
    obtain ⟨t, rfl, ht⟩ := (Place.spells_start.run hq).document hd
    exact ⟨t, ht, rfl⟩
  · rintro ⟨t, rfl, rfl⟩
    exact exists_run_lexemes t

theorem readFrom_eq_ok_iff {p : Place} {ts : List Token} {d : Document} :
    readFrom p ts = .ok d ↔ ∃ q, p.run (ts.map Token.lexeme) = some q ∧ q.document? = some d := by
  induction ts generalizing p with
  | nil =>
    cases hd : p.document? <;> simp [readFrom, hd]
  | cons t ts ih =>
    rw [readFrom, List.map_cons, Place.run_cons]
    cases p.step t.lexeme with
    | none => simp
    | some p => simpa using ih

theorem readDocument_eq_ok_iff {ts : List Token} {d : Document} :
    readDocument ts = .ok d ↔
      ∃ t : DocumentTree, t.lexemes = ts.map Token.lexeme ∧ t.document = d :=
  readFrom_eq_ok_iff.trans run_start_iff

theorem parseTask_eq_ok_iff {text : String} {ts : List Token} (h : tokenize text.toList = .ok ts)
    {t : Task} :
    parseTask text = .ok t ↔
      ∃ d : DocumentTree, d.lexemes = ts.map Token.lexeme ∧ d.document.task = t := by
  have hread : parseTask text = .ok t ↔ ∃ d, readDocument ts = .ok d ∧ d.task = t := by
    simp only [parseTask, parseDocument, h]
    cases readDocument ts with
    | ok d => simp
    | error e => cases e <;> simp
  rw [hread]
  constructor
  · rintro ⟨_, hd, rfl⟩
    obtain ⟨d, hlexemes, rfl⟩ := readDocument_eq_ok_iff.1 hd
    exact ⟨d, hlexemes, rfl⟩
  · rintro ⟨d, hlexemes, rfl⟩
    exact ⟨_, readDocument_eq_ok_iff.2 ⟨d, hlexemes, rfl⟩, rfl⟩

/-- A text is accepted if and only if its lexemes have a derivation. Then they have only one, in
which `not` is a negation exactly if a constant comes right after it, and the task is the one that
the derivation stands for. -/
theorem parseTask_iff_derivation {text : String} {ts : List Token}
    (h : tokenize text.toList = .ok ts) :
    ((∃ t, parseTask text = .ok t) ↔
        ∃ d : DocumentTree, d.lexemes = ts.map Token.lexeme) ∧
      ∀ d : DocumentTree, d.lexemes = ts.map Token.lexeme →
        (∀ d' : DocumentTree, d'.lexemes = ts.map Token.lexeme → d' = d) ∧
        (∀ r ∈ d.rules, ∀ e ∈ r.body, ∀ xs, e.lexemes = .constant "not" :: xs →
          (∃ p ys, xs = .constant p :: ys) ∧ (∃ t, e = .negation t) ∨
            (∀ p ys, xs ≠ .constant p :: ys) ∧ ∃ args, e = .atom ⟨"not", args⟩) ∧
        ∃ t, parseTask text = .ok t ∧ t.Represents d.document := by
  constructor
  · simp [parseTask_eq_ok_iff h]
  · intro d hd
    refine ⟨fun d' hd' => DocumentTree.lexemes_injective (hd'.trans hd.symm), ?_, ?_⟩
    · exact fun _ _ e _ xs => e.negation_or_atom
    · exact ⟨_, (parseTask_eq_ok_iff h).2 ⟨d, hd, rfl⟩, d.document.represents_task⟩

def negatedNot : DocumentTree where
  rules := [.clause none [.negation ⟨"not", none⟩, .atom ⟨"not", some [.var "X"]⟩] (by simp)]
  scenarios := [⟨[⟨"a", some []⟩], [[⟨"b", none⟩]]⟩]

theorem parseTask_negatedNot :
    ∃ ts, tokenize ":- not not, not(X).\nI: a() O: \x7bb\x7d".toList = .ok ts ∧
      negatedNot.lexemes = ts.map Token.lexeme ∧
      ∃ t, parseTask ":- not not, not(X).\nI: a() O: \x7bb\x7d" = .ok t ∧
        t.Represents
          ⟨[⟨none, [.atom true ⟨"not", []⟩, .atom false ⟨"not", ["X"]⟩]⟩],
            [⟨[⟨"a", []⟩], [[⟨"b", []⟩]]⟩]⟩ := by
  have h : tokenize ":- not not, not(X).\nI: a() O: \x7bb\x7d".toList =
      .ok [⟨.implies, 0⟩, ⟨.constant "not", 3⟩, ⟨.constant "not", 7⟩, ⟨.comma, 10⟩,
        ⟨.constant "not", 12⟩, ⟨.openParen, 15⟩, ⟨.var "X", 16⟩, ⟨.closeParen, 17⟩, ⟨.stop, 18⟩,
        ⟨.input, 20⟩, ⟨.constant "a", 23⟩, ⟨.openParen, 24⟩, ⟨.closeParen, 25⟩, ⟨.outputs, 27⟩,
        ⟨.openBrace, 30⟩, ⟨.constant "b", 31⟩, ⟨.closeBrace, 32⟩] := by cbv
  exact ⟨_, h, rfl, ((parseTask_iff_derivation h).2 negatedNot rfl).2.2⟩

theorem mem_separated {ws : List (List Lexeme)} {w : List Lexeme} (hw : w ∈ ws) {x : Lexeme}
    (hx : x ∈ w) : x ∈ separated ws := by
  cases ws with
  | nil => cases hw
  | cons v ws =>
    rw [separated_cons, List.mem_append, List.mem_flatMap]
    rcases List.mem_cons.1 hw with rfl | hw
    · exact .inl hx
    · exact .inr ⟨w, hw, List.mem_cons_of_mem _ hx⟩

theorem TermTree.wellSpelled_literal {t : TermTree} (h : ∀ x ∈ t.lexemes, x.WellSpelled) :
    t.literal.WellSpelled := by
  obtain ⟨p, args⟩ := t
  refine ⟨h (.constant p) List.mem_cons_self, ?_⟩
  cases args with
  | none => exact fun _ ha => absurd ha List.not_mem_nil
  | some args =>
    intro s hs
    obtain ⟨a, ha, rfl⟩ := List.mem_map.1 hs
    have hseparated : a.lexeme ∈ separated (args.map fun a => [a.lexeme]) :=
      mem_separated (List.mem_map_of_mem ha) (List.mem_singleton_self _)
    have hmem : a.lexeme ∈ lexemes ⟨p, some args⟩ := by
      simp only [lexemes, List.mem_cons, List.mem_append]
      exact .inr (.inr (.inl hseparated))
    exact ⟨a.lexeme, h _ hmem, by simp⟩

theorem RuleTree.wellSpelled_head {r : RuleTree} (h : ∀ x ∈ r.lexemes, x.WellSpelled)
    {l : Literal} (hl : r.rule.head = some l) : l.WellSpelled := by
  cases r with
  | fact t =>
    cases hl
    exact t.wellSpelled_literal fun x hx => h x (List.mem_append_left _ hx)
  | clause head body hne =>
    obtain ⟨t, rfl, rfl⟩ := Option.map_eq_some_iff.1 hl
    exact t.wellSpelled_literal fun x hx => h x (List.mem_append_left _ hx)

theorem exists_wellSpelled_ruleTree {text : String} {t : Task} (h : parseTask text = .ok t)
    {r : Rule} (hr : r ∈ t.background) :
    ∃ tree : RuleTree, tree.rule = r ∧ ∀ x ∈ tree.lexemes, x.WellSpelled := by
  cases hts : tokenize text.toList with
  | error o => simp [parseTask, parseDocument, hts] at h
  | ok ts =>
    obtain ⟨d, hd, rfl⟩ := (parseTask_eq_ok_iff hts).1 h
    obtain ⟨tree, htree, rfl⟩ := List.mem_map.1 (show r ∈ d.rules.map RuleTree.rule from hr)
    refine ⟨tree, rfl, fun x hx => ?_⟩
    have hmem : x ∈ d.lexemes :=
      List.mem_append_left _ (List.mem_flatMap.2 ⟨tree, htree, hx⟩)
    obtain ⟨token, htoken, rfl⟩ := List.mem_map.1 (hd ▸ hmem)
    exact wellSpelled_of_tokensFrom hts token htoken

theorem wellSpelled_head_of_parseTask {text : String} {t : Task} (h : parseTask text = .ok t)
    {r : Rule} (hr : r ∈ t.background) {l : Literal} (hl : r.head = some l) : l.WellSpelled := by
  obtain ⟨tree, rfl, hlexemes⟩ := exists_wellSpelled_ruleTree h hr
  exact tree.wellSpelled_head hlexemes hl

end AnswerSetLearning
