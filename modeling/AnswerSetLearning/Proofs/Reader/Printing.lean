import AnswerSetLearning.Proofs.Reader.Recognition
import AnswerSetLearning.Proofs.Reader.Layout
import AnswerSetLearning.Solver.Query

namespace AnswerSetLearning

open Solver (factRule program programText)

namespace Spells

theorem parseTask_eq {text : String} {d : DocumentTree} (h : Spells text.toList d.lexemes) :
    parseTask text = .ok d.document.task := by
  obtain ⟨ts, hts, hlexemes⟩ := h.tokensFrom_eq 0
  exact (parseTask_eq_ok_iff hts).2 ⟨d, hlexemes.symm, rfl⟩

section Marks

variable {cs : List Char} {xs : List Lexeme} (h : Spells cs xs)

include h

theorem openParen : Spells ('(' :: cs) (.openParen :: xs) := .lexeme (n := 1) rfl h

theorem closeParen : Spells (')' :: cs) (.closeParen :: xs) := .lexeme (n := 1) rfl h

theorem comma : Spells (',' :: ' ' :: cs) (.comma :: xs) :=
  .lexeme (n := 1) rfl (h.blank (by decide))

theorem implies : Spells (':' :: '-' :: ' ' :: cs) (.implies :: xs) :=
  .lexeme (n := 2) rfl (h.blank (by decide))

theorem stop : Spells ('.' :: cs) (.stop :: xs) := .lexeme (n := 1) rfl h

end Marks

end Spells

/-! ## Words -/

def Prints (word : String) (xs : List Lexeme) : Prop :=
  ∀ ⦃d cs ys⦄, Ends d → Spells (d :: cs) ys → Spells (word.toList ++ d :: cs) (xs ++ ys)

theorem Lexeme.Separable.prints {x : Lexeme} (h : x.Separable) : Prints x.text [x] :=
  fun _ _ _ hd hcs => h.spells hd hcs

theorem ends_blank : Ends ' ' := ends_of_isBlank (by decide)

theorem ends_openParen : Ends '(' := ⟨by decide, by decide, by decide, by decide⟩

theorem ends_closeParen : Ends ')' := ⟨by decide, by decide, by decide, by decide⟩

theorem ends_comma : Ends ',' := ⟨by decide, by decide, by decide, by decide⟩

theorem ends_stop : Ends '.' := ⟨by decide, by decide, by decide, by decide⟩

theorem Prints.append_blank {v w : String} {xs ys : List Lexeme} (hv : Prints v xs)
    (hw : Prints w ys) : Prints (v ++ " " ++ w) (xs ++ ys) := by
  intro d cs zs hd hcs
  have hrest := hv ends_blank (.blank (by decide) (hw hd hcs))
  simpa [String.toList_append, List.append_assoc] using hrest

theorem joinWith_cons_cons (sep s s' : String) (rest : List String) :
    joinWith sep (s :: s' :: rest) = s ++ sep ++ joinWith sep (s' :: rest) := rfl

theorem Prints.joined {α : Type} {word : α → String} {spell : α → List Lexeme} {l : List α}
    (h : ∀ a ∈ l, Prints (word a) (spell a)) (hl : l ≠ []) :
    Prints (joinWith ", " (l.map word)) (separated (l.map spell)) := by
  obtain ⟨a, l, rfl⟩ := List.exists_cons_of_ne_nil hl
  clear hl
  induction l generalizing a with
  | nil => simpa [joinWith, separated_cons] using h a List.mem_cons_self
  | cons b l ih =>
    intro d cs ys hd hcs
    have hrest := ih b (fun c hc => h c (List.mem_cons_of_mem a hc)) hd hcs
    have hword := h a List.mem_cons_self ends_comma hrest.comma
    simpa [joinWith_cons_cons, separated_cons, String.toList_append, List.append_assoc] using hword

/-! ## Terms, elements and rules -/

namespace TermTree

/-- The term without parentheses that have nothing in them. -/
def trimmed (t : TermTree) : TermTree where
  predicate := t.predicate
  args := match t.args with
    | some (a :: args) => some (a :: args)
    | _ => none

theorem literal_trimmed (t : TermTree) : t.trimmed.literal = t.literal := by
  rcases t with ⟨p, _ | _ | ⟨a, args⟩⟩ <;> rfl

theorem prints {t : TermTree} (h : ∀ x ∈ t.lexemes, x.Separable) :
    Prints t.literal.text t.trimmed.lexemes := by
  have hpredicate := (h (.constant t.predicate) List.mem_cons_self).prints
  rcases t with ⟨p, _ | _ | ⟨a, args⟩⟩
  · exact hpredicate
  · exact hpredicate
  · intro d cs ys hd hcs
    have hargs : ∀ b ∈ a :: args, Prints b.text [b.lexeme] := fun b hb =>
      (h b.lexeme (by
        simp only [lexemes, List.mem_cons, List.mem_append]
        exact .inr (.inr (.inl (mem_separated (List.mem_map_of_mem hb)
          (List.mem_singleton_self _)))))).prints
    have hjoined := Prints.joined hargs (by simp) ends_closeParen hcs.closeParen
    have hterm := hpredicate ends_openParen hjoined.openParen
    simpa [literal, Literal.text, lexemes, trimmed, Lexeme.text, String.toList_append,
      List.append_assoc] using hterm

theorem text_ne_empty {t : TermTree} (h : ∀ x ∈ t.lexemes, x.Separable) :
    t.literal.text ≠ "" := by
  obtain ⟨c, cs, htext, -⟩ := (h (.constant t.predicate) List.mem_cons_self).readable.exists_cons
  intro hempty
  have htext : t.predicate.toList = c :: cs := htext
  rcases t with ⟨p, _ | _ | ⟨a, args⟩⟩ <;>
    simpa [literal, Literal.text, htext, String.toList_append] using congrArg String.toList hempty

end TermTree

namespace ElementTree

def trimmed : ElementTree → ElementTree
  | atom t => atom t.trimmed
  | negation t => negation t.trimmed
  | comparison left r right => comparison left r right

theorem element_trimmed (e : ElementTree) : e.trimmed.element = e.element := by
  cases e <;> simp [trimmed, element, TermTree.literal_trimmed]

theorem prints {e : ElementTree} (h : ∀ x ∈ e.lexemes, x.Separable) :
    Prints e.element.text e.trimmed.lexemes := by
  cases e with
  | atom t => exact TermTree.prints h
  | negation t =>
    have hnot := (h (.constant "not") List.mem_cons_self).prints
    have hterm := TermTree.prints fun x hx => h x (List.mem_cons_of_mem _ hx)
    exact hnot.append_blank hterm
  | comparison left r right =>
    have hleft := (h left.lexeme (by simp [lexemes])).prints
    have hr := (h (.relation r) (by simp [lexemes])).prints
    have hright := (h right.lexeme (by simp [lexemes])).prints
    exact (hleft.append_blank hr).append_blank hright

end ElementTree

namespace RuleTree

def trimmed : RuleTree → RuleTree
  | fact t => fact t.trimmed
  | clause head body nonempty =>
    clause (head.map TermTree.trimmed) (body.map ElementTree.trimmed) (by simpa using nonempty)

theorem rule_trimmed (r : RuleTree) : r.trimmed.rule = r.rule := by
  cases r with
  | fact t => simp [trimmed, rule, TermTree.literal_trimmed]
  | clause head body nonempty =>
    simp [trimmed, rule, Function.comp_def, TermTree.literal_trimmed, ElementTree.element_trimmed]

theorem spells {r : RuleTree} (h : ∀ x ∈ r.lexemes, x.Separable) {cs : List Char}
    {ys : List Lexeme} (hcs : Spells cs ys) :
    Spells (r.rule.text.toList ++ cs) (r.trimmed.lexemes ++ ys) := by
  cases r with
  | fact t =>
    have hterm := TermTree.prints (fun x hx => h x (List.mem_append_left _ hx)) ends_stop hcs.stop
    simpa [rule, Rule.text, Rule.headText, trimmed, lexemes, String.toList_append,
      List.append_assoc] using hterm
  | clause head body nonempty =>
    have hbody : ∀ e ∈ body, Prints e.element.text e.trimmed.lexemes := fun e he =>
      ElementTree.prints fun x hx => h x (by
        simp only [lexemes, List.mem_append, List.mem_cons]
        exact .inr (.inr (.inl (mem_separated (List.mem_map_of_mem he) hx))))
    have hneck := (Prints.joined hbody nonempty ends_stop hcs.stop).implies
    obtain ⟨e, es, rfl⟩ := List.exists_cons_of_ne_nil nonempty
    cases head with
    | none =>
      simpa [rule, Rule.text, Rule.headText, trimmed, lexemes, String.toList_append,
        List.append_assoc, Function.comp_def] using hneck
    | some t =>
      have ht : ∀ x ∈ t.lexemes, x.Separable := fun x hx => h x (List.mem_append_left _ hx)
      have hhead := TermTree.prints ht ends_blank (.blank (by decide) hneck)
      simpa [rule, Rule.text, Rule.headText, TermTree.text_ne_empty ht, trimmed, lexemes,
        String.toList_append, List.append_assoc, Function.comp_def] using hhead

end RuleTree

theorem spells_programText {rs : List RuleTree} (h : ∀ r ∈ rs, ∀ x ∈ r.lexemes, x.Separable) :
    Spells (programText (rs.map RuleTree.rule)).toList
      (rs.flatMap fun r => r.trimmed.lexemes) := by
  rw [programText, String.toList_append]
  cases rs with
  | nil => exact .blank (by decide) .done
  | cons r rs =>
    induction rs generalizing r with
    | nil =>
      have hrule := RuleTree.spells (h r List.mem_cons_self) (.blank (c := '\n') (by decide) .done)
      simpa [joinWith] using hrule
    | cons r' rs ih =>
      have hrest := ih r' fun r hr => h r (List.mem_cons_of_mem _ hr)
      have hrule := RuleTree.spells (h r List.mem_cons_self) (.blank (c := '\n') (by decide) hrest)
      simpa [joinWith_cons_cons, String.toList_append, List.append_assoc] using hrule

/-! ## What a text mentions -/

def Literal.Printable (l : Literal) : Prop :=
  ∃ t : TermTree, t.literal = l ∧ ∀ x ∈ t.lexemes, x.Separable

def Rule.Printable (r : Rule) : Prop :=
  ∃ t : RuleTree, t.rule = r ∧ ∀ x ∈ t.lexemes, x.Separable

theorem Literal.Printable.factRule {l : Literal} (h : l.Printable) : (factRule l).Printable := by
  obtain ⟨t, rfl, ht⟩ := h
  have hstop : Lexeme.stop.Separable := fun _ _ _ => rfl
  exact ⟨.fact t, rfl, List.forall_mem_append.2 ⟨ht, List.forall_mem_singleton.2 hstop⟩⟩

theorem exists_ruleTrees {rules : List Rule} (h : ∀ r ∈ rules, r.Printable) :
    ∃ ts : List RuleTree, ts.map RuleTree.rule = rules ∧
      ∀ t ∈ ts, ∀ x ∈ t.lexemes, x.Separable := by
  induction rules with
  | nil => exact ⟨[], rfl, by simp⟩
  | cons r rules ih =>
    obtain ⟨t, rfl, ht⟩ := h r List.mem_cons_self
    obtain ⟨ts, rfl, hts⟩ := ih fun r hr => h r (List.mem_cons_of_mem _ hr)
    exact ⟨t :: ts, rfl, List.forall_mem_cons.2 ⟨ht, hts⟩⟩

theorem parseTask_of_printable {rules : List Rule} (h : ∀ r ∈ rules, r.Printable) :
    parseTask (programText rules) = .ok ⟨.empty, rules, []⟩ := by
  obtain ⟨ts, rfl, hts⟩ := exists_ruleTrees h
  have hspells := spells_programText hts
  rw [← List.flatMap_map (g := RuleTree.lexemes)] at hspells
  rw [Spells.parseTask_eq (d := ⟨ts.map RuleTree.trimmed, []⟩)
    (by simpa [DocumentTree.lexemes] using hspells)]
  simp [DocumentTree.document, Document.task, Registry.registerScenarios, Function.comp_def,
    RuleTree.rule_trimmed]

theorem parseTask_text {r : Rule} (h : r.Printable) :
    parseTask r.text = .ok ⟨.empty, [r], []⟩ := by
  obtain ⟨t, rfl, ht⟩ := h
  have hspells := RuleTree.spells ht .done
  rw [Spells.parseTask_eq (d := ⟨[t.trimmed], []⟩)
    (by simpa [DocumentTree.lexemes] using hspells)]
  simp [DocumentTree.document, Document.task, Registry.registerScenarios, RuleTree.rule_trimmed]

theorem Rule.Printable.eq_of_text_eq {r r' : Rule} (h : r.Printable) (h' : r'.Printable)
    (htext : r.text = r'.text) : r = r' := by
  have hread := parseTask_text h
  rw [htext, parseTask_text h'] at hread
  simpa using hread.symm

theorem Literal.Printable.eq_of_text_eq {l l' : Literal} (h : l.Printable) (h' : l'.Printable)
    (htext : l.text = l'.text) : l = l' := by
  have hfact : Solver.factRule l = Solver.factRule l' := by
    apply h.factRule.eq_of_text_eq h'.factRule
    simp [Solver.factRule, Rule.text, Rule.headText, htext]
  simpa [Solver.factRule] using hfact

def Task.Mentions (t : Task) (l : Literal) : Prop :=
  l ∈ t.registry.literals ∨
    ∃ r ∈ t.background, r.head = some l ∨ ∃ negated, .atom negated l ∈ r.body

section Parsed

variable {text : String} {t : Task}

theorem exists_documentTree (h : parseTask text = .ok t) :
    ∃ d : DocumentTree, d.document.task = t ∧ ∀ x ∈ d.lexemes, x.Separable := by
  cases hts : tokenize text.toList with
  | error o => simp [parseTask, parseDocument, hts] at h
  | ok ts =>
    obtain ⟨d, hd, rfl⟩ := (parseTask_eq_ok_iff hts).1 h
    refine ⟨d, rfl, fun x hx c hc => ?_⟩
    obtain ⟨token, htoken, rfl⟩ := List.mem_map.1 (hd ▸ hx)
    exact (tokenize_eq_ok_iff.1 hts).readBefore hc token htoken

theorem printable_of_mem_background (h : parseTask text = .ok t) {r : Rule}
    (hr : r ∈ t.background) : r.Printable := by
  obtain ⟨d, rfl, hd⟩ := exists_documentTree h
  obtain ⟨tree, htree, rfl⟩ := List.mem_map.1 (show r ∈ d.rules.map RuleTree.rule from hr)
  exact ⟨tree, rfl, fun x hx =>
    hd x (List.mem_append_left _ (List.mem_flatMap.2 ⟨tree, htree, hx⟩))⟩

theorem ScenarioTree.printable {s : ScenarioTree} (h : ∀ x ∈ s.lexemes, x.Separable)
    {l : Literal} (hl : (∃ a ∈ s.scenario.answers, l ∈ a) ∨ l ∈ s.scenario.facts) :
    l.Printable := by
  simp only [lexemes, answerLexemes, List.mem_cons, List.mem_append, List.mem_flatMap] at h
  rcases hl with ⟨a, ha, hl⟩ | hl
  · obtain ⟨set, hset, rfl⟩ := List.mem_map.1 ha
    obtain ⟨t, ht, rfl⟩ := List.mem_map.1 hl
    exact ⟨t, rfl, fun x hx => h x (.inr (.inr (.inr ⟨set, hset, .inr (.inl ⟨t, ht, hx⟩)⟩)))⟩
  · obtain ⟨t, ht, rfl⟩ := List.mem_map.1 hl
    exact ⟨t, rfl, fun x hx => h x (.inr (.inl ⟨t, ht, hx⟩))⟩

theorem printable_registerScenarios {r : Registry} {ss : List Scenario}
    (hr : ∀ l ∈ r.literals, l.Printable)
    (hss : ∀ s ∈ ss, ∀ l, ((∃ a ∈ s.answers, l ∈ a) ∨ l ∈ s.facts) → l.Printable) :
    ∀ l ∈ (r.registerScenarios ss).2.literals, l.Printable := by
  induction ss generalizing r with
  | nil => exact hr
  | cons s ss ih =>
    refine ih (fun l hl => ?_) fun s hs => hss s (List.mem_cons_of_mem _ hs)
    rcases Registry.mem_literals_registerScenario.1 hl with hl | hl
    · exact hr l hl
    · exact hss s List.mem_cons_self l hl

theorem printable_of_mem_registry (h : parseTask text = .ok t) {l : Literal}
    (hl : l ∈ t.registry.literals) : l.Printable := by
  obtain ⟨d, rfl, hd⟩ := exists_documentTree h
  refine printable_registerScenarios (fun l hl => absurd hl List.not_mem_nil) ?_ l hl
  intro s hs l hl
  obtain ⟨tree, htree, rfl⟩ := List.mem_map.1 (show s ∈ d.scenarios.map _ from hs)
  exact tree.printable (fun x hx =>
    hd x (List.mem_append_right _ (List.mem_flatMap.2 ⟨tree, htree, hx⟩))) hl

theorem Rule.Printable.head {r : Rule} (h : r.Printable) {l : Literal} (hl : r.head = some l) :
    l.Printable := by
  obtain ⟨tree, rfl, htree⟩ := h
  cases tree with
  | fact t =>
    cases hl
    exact ⟨t, rfl, fun x hx => htree x (List.mem_append_left _ hx)⟩
  | clause head body nonempty =>
    obtain ⟨t, rfl, rfl⟩ := Option.map_eq_some_iff.1 hl
    exact ⟨t, rfl, fun x hx => htree x (List.mem_append_left _ hx)⟩

theorem Rule.Printable.body {r : Rule} (h : r.Printable) {negated : Bool} {l : Literal}
    (hl : .atom negated l ∈ r.body) : l.Printable := by
  obtain ⟨tree, rfl, htree⟩ := h
  cases tree with
  | fact t => cases hl
  | clause head body nonempty =>
    obtain ⟨e, he, hatom⟩ := List.mem_map.1 hl
    have helement : ∀ x ∈ e.lexemes, x.Separable := fun x hx => htree x (by
      simp only [RuleTree.lexemes, List.mem_append, List.mem_cons]
      exact .inr (.inr (.inl (mem_separated (List.mem_map_of_mem he) hx))))
    cases e with
    | atom t =>
      cases hatom
      exact ⟨t, rfl, helement⟩
    | negation t =>
      cases hatom
      exact ⟨t, rfl, fun x hx => helement x (List.mem_cons_of_mem _ hx)⟩
    | comparison left r right => cases hatom

theorem Task.Mentions.printable (h : parseTask text = .ok t) {l : Literal} (hl : t.Mentions l) :
    l.Printable := by
  rcases hl with hl | ⟨r, hr, hl | ⟨negated, hl⟩⟩
  · exact printable_of_mem_registry h hl
  · exact (printable_of_mem_background h hr).head hl
  · exact (printable_of_mem_background h hr).body hl

end Parsed

/-- The text of a program of the rules of a task and of registered facts is read as these rules and
one fact for each number, in order, and the text of a rule as the rule. Literals and rules that are
read from texts differ only if their texts do. -/
theorem parseTask_programText {text : String} {t : Task} (h : parseTask text = .ok t) :
    (∀ sets : List LitSet, (∀ s ∈ sets, t.registry.Registers s) →
      ∃ facts : List Literal,
        List.Forall₂ (fun i l => t.registry.get? i = some l) (sets.flatMap SortedSet.items) facts ∧
        program t.background sets t.registry = .ok (t.background ++ facts.map factRule) ∧
        parseTask (programText (t.background ++ facts.map factRule)) =
          .ok ⟨.empty, t.background ++ facts.map factRule, []⟩) ∧
    (∀ r ∈ t.background, parseTask r.text = .ok ⟨.empty, [r], []⟩) ∧
    ∀ text' t', parseTask text' = .ok t' →
      (∀ l l', t.Mentions l → t'.Mentions l' → l.text = l'.text → l = l') ∧
      ∀ r ∈ t.background, ∀ r' ∈ t'.background, r.text = r'.text → r = r' := by
  have hrules (r) (hr : r ∈ t.background) : r.Printable := printable_of_mem_background h hr
  refine ⟨fun sets hsets => ?_, fun r hr => parseTask_text (hrules r hr), fun text' t' h' =>
    ⟨fun l l' hl hl' => (hl.printable h).eq_of_text_eq (hl'.printable h'), fun r hr r' hr' =>
      (hrules r hr).eq_of_text_eq (printable_of_mem_background h' hr')⟩⟩
  obtain ⟨facts, hfacts⟩ := Registry.exists_resolve_of_registers hsets
  have hget := Registry.resolve_eq_ok_iff.1 hfacts
  have hforall : List.Forall₂ (fun i l => t.registry.get? i = some l)
      (sets.flatMap SortedSet.items) facts := by
    have hsome := List.forall₂_eq_eq_eq ▸ hget
    simpa [List.forall₂_map_left_iff, List.forall₂_map_right_iff] using hsome
  refine ⟨facts, hforall, by simp [program, hfacts, Except.map], parseTask_of_printable ?_⟩
  refine List.forall_mem_append.2 ⟨hrules, List.forall_mem_map.2 fun l hl => ?_⟩
  have hmem : some l ∈ (sets.flatMap SortedSet.items).map t.registry.get? :=
    hget ▸ List.mem_map_of_mem hl
  obtain ⟨i, -, hi⟩ := List.mem_map.1 hmem
  exact (printable_of_mem_registry h (Registry.mem_literals_iff.2 ⟨i, hi⟩)).factRule

def reservedWords : Task where
  registry := ⟨[⟨"q", ["_"]⟩, ⟨"not", []⟩]⟩
  background := [⟨some ⟨"p", []⟩, [.atom true ⟨"not", []⟩, .atom false ⟨"not", ["I"]⟩,
    .comparison .unequal "I" "O"]⟩]
  examples := [⟨⟨[2]⟩, [⟨[1]⟩]⟩]

theorem parseTask_reservedWords :
    parseTask (programText (reservedWords.background ++
        [factRule ⟨"not", []⟩, factRule ⟨"q", ["_"]⟩, factRule ⟨"not", []⟩])) =
      .ok ⟨.empty, reservedWords.background ++
        [factRule ⟨"not", []⟩, factRule ⟨"q", ["_"]⟩, factRule ⟨"not", []⟩], []⟩ := by
  have hparse : parseTask "p() :- not not, not(I), I != O.\nI: not() O: \x7bq(_)\x7d\n" =
      .ok reservedWords := by cbv
  obtain ⟨facts, -, hprogram, hread⟩ :=
    (parseTask_programText hparse).1 [⟨[2]⟩, ⟨[1, 2]⟩] (by decide)
  have hfacts : program reservedWords.background [⟨[2]⟩, ⟨[1, 2]⟩] reservedWords.registry =
      .ok (reservedWords.background ++
        [factRule ⟨"not", []⟩, factRule ⟨"q", ["_"]⟩, factRule ⟨"not", []⟩]) := by cbv
  rwa [Except.ok.inj (hprogram.symm.trans hfacts)] at hread

end AnswerSetLearning
