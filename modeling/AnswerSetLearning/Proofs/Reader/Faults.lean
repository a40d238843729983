import AnswerSetLearning.Proofs.Reader.Layout
import AnswerSetLearning.Proofs.Reader.Recognition

namespace AnswerSetLearning

/-! ## Completions -/

namespace TermState

def completion : TermState → List Lexeme
  | name _ | closed _ => []
  | opened _ | argument _ _ => [.closeParen]
  | comma _ _ => [.anonymous, .closeParen]

end TermState

def RuleState.completion : RuleState → List Lexeme
  | head t | atom _ _ t => t.completion ++ [.stop]
  | element _ => [.constant "a", .stop]
  | negation _ | compared _ => [.stop]
  | operand _ _ => [.relation .less, .var "X", .stop]
  | relation _ _ _ => [.var "X", .stop]

def ScenarioState.completion : ScenarioState → List Lexeme
  | facts _ => [.outputs]
  | fact _ t => t.completion ++ [.outputs]
  | answers _ => []
  | answer _ _ => [.closeBrace]
  | member _ _ t => t.completion ++ [.closeBrace]

def Place.completion : Place → List Lexeme
  | rules _ => []
  | rule _ s => s.completion
  | scenario _ s => s.completion

theorem TermState.run_completion (place : TermState → Place)
    (hstep : ∀ s x s', s.step x = some s' → (place s).step x = some (place s'))
    (s : TermState) (xs : List Lexeme) :
    ∃ (t : TermState) (l : Literal), t.Ends l ∧
      (place s).run (s.completion ++ xs) = (place t).run xs := by
  have hclose {s : TermState} {l : Literal} (h : s.step .closeParen = some (closed l)) :
      (place s).run (.closeParen :: xs) = (place (closed l)).run xs :=
    Place.run_of_step (hstep _ _ _ h) xs
  cases s with
  | name p => exact ⟨_, _, ends_name p, rfl⟩
  | opened p => exact ⟨_, _, ends_closed _, hclose rfl⟩
  | argument p args => exact ⟨_, _, ends_closed _, hclose rfl⟩
  | comma p args =>
    have hargument := hstep (comma p args) .anonymous (argument p (args ++ ["_"])) rfl
    exact ⟨_, _, ends_closed _, (Place.run_of_step hargument _).trans (hclose rfl)⟩
  | closed l => exact ⟨_, _, ends_closed l, rfl⟩

theorem Place.run_rule_completion (d : Document) (s : RuleState) :
    ∃ r, (rule d s).run s.completion = some (rules (d.addRule r)) := by
  cases s with
  | head t =>
    obtain ⟨t, l, ht, hrun⟩ :=
      t.run_completion (fun t => rule d (.head t)) (fun _ _ _ => step_head) [.stop]
    refine ⟨⟨some l, []⟩, hrun.trans ?_⟩
    simp [run_cons, Place.step, RuleState.step, ht.step, ht.literal, afterRule]
  | atom dr negated t =>
    obtain ⟨t, l, ht, hrun⟩ := t.run_completion (fun t => rule d (.atom dr negated t))
      (fun _ _ _ => step_atom) [.stop]
    refine ⟨(dr.add (.atom negated l)).rule, hrun.trans ?_⟩
    simp [run_cons, Place.step, RuleState.step, RuleState.stepAtom, ht.step, ht.literal,
      RuleState.stepElementEnd, afterRule]
  | element dr => exact ⟨_, rfl⟩
  | negation dr => exact ⟨_, rfl⟩
  | operand dr left => exact ⟨_, rfl⟩
  | relation dr left r => exact ⟨_, rfl⟩
  | compared dr => exact ⟨_, rfl⟩

theorem Place.run_scenario_completion (d : Document) (s : ScenarioState) :
    ∃ done, (scenario d s).run s.completion = some (scenario d (.answers done)) := by
  cases s with
  | facts fs => exact ⟨_, rfl⟩
  | fact fs t =>
    obtain ⟨t, l, ht, hrun⟩ := t.run_completion (fun t => scenario d (.fact fs t))
      (fun _ _ _ h => by simp [Place.step, ScenarioState.step, h, afterScenario]) [.outputs]
    refine ⟨⟨fs ++ [l], []⟩, hrun.trans ?_⟩
    simp [run_cons, Place.step, ScenarioState.step, ht.step, ht.literal,
      ScenarioState.stepFacts, afterScenario]
  | answers done => exact ⟨done, rfl⟩
  | answer draft set => exact ⟨_, rfl⟩
  | member draft set t =>
    obtain ⟨t, l, ht, hrun⟩ := t.run_completion (fun t => scenario d (.member draft set t))
      (fun _ _ _ h => by simp [Place.step, ScenarioState.step, h, afterScenario]) [.closeBrace]
    refine ⟨{ draft with answers := draft.answers ++ [set ++ [l]] }, hrun.trans ?_⟩
    simp [run_cons, Place.step, ScenarioState.step, ht.step, ht.literal,
      ScenarioState.stepAnswer, afterScenario]

theorem Place.run_completion (p : Place) :
    ∃ q d, p.run p.completion = some q ∧ q.document? = some d := by
  cases p with
  | rules d => exact ⟨_, d, rfl, rfl⟩
  | rule d s =>
    obtain ⟨r, hrun⟩ := run_rule_completion d s
    exact ⟨_, _, hrun, rfl⟩
  | scenario d s =>
    obtain ⟨done, hrun⟩ := run_scenario_completion d s
    exact ⟨_, _, hrun, rfl⟩

theorem Lexeme.readable_of_text {x : Lexeme} {n : Nat}
    (h : piece? x.text.toList = some (.lexeme x n)) : x.Readable :=
  readable_of_piece? h

theorem TermState.readable_completion (s : TermState) : ∀ x ∈ s.completion, x.Readable := by
  have hparen : Lexeme.closeParen.Readable := Lexeme.readable_of_text rfl
  have hanonymous : Lexeme.anonymous.Readable := Lexeme.readable_of_text rfl
  cases s <;> simp [completion, hparen, hanonymous]

theorem RuleState.readable_completion (s : RuleState) : ∀ x ∈ s.completion, x.Readable := by
  have hstop : Lexeme.stop.Readable := Lexeme.readable_of_text rfl
  have hconstant : (Lexeme.constant "a").Readable := Lexeme.readable_of_text rfl
  have hvar : (Lexeme.var "X").Readable := Lexeme.readable_of_text rfl
  have hrelation : (Lexeme.relation .less).Readable := Lexeme.readable_of_text rfl
  cases s with
  | head t | atom dr negated t => exact forall_mem_append_singleton t.readable_completion hstop
  | _ => simp [completion, hstop, hconstant, hvar, hrelation]

theorem ScenarioState.readable_completion (s : ScenarioState) :
    ∀ x ∈ s.completion, x.Readable := by
  have houtputs : Lexeme.outputs.Readable := Lexeme.readable_of_text rfl
  have hbrace : Lexeme.closeBrace.Readable := Lexeme.readable_of_text rfl
  cases s with
  | fact fs t => exact forall_mem_append_singleton t.readable_completion houtputs
  | member d set t => exact forall_mem_append_singleton t.readable_completion hbrace
  | _ => simp [completion, houtputs, hbrace]

theorem Place.readable_completion (p : Place) : ∀ x ∈ p.completion, x.Readable := by
  cases p with
  | rules d => simp [completion]
  | rule d s => exact s.readable_completion
  | scenario d s => exact s.readable_completion

/-! ## Accepted lexemes and their prefixes -/

def Accepted (xs : List Lexeme) : Prop :=
  ∃ (text : String) (ts : List Token) (t : Task), Cuts text.toList text.toList.length ts ∧
    ts.map Token.lexeme = xs ∧ parseTask text = .ok t

/-- An accepted text starts with the lexemes. -/
def Viable (xs : List Lexeme) : Prop := ∃ ys, Accepted (xs ++ ys)

theorem accepted_iff {xs : List Lexeme} :
    Accepted xs ↔ (∀ x ∈ xs, x.Readable) ∧ ∃ d : DocumentTree, d.lexemes = xs := by
  constructor
  · rintro ⟨text, ts, t, hts, rfl, ht⟩
    obtain ⟨d, hd, -⟩ := (parseTask_eq_ok_iff hts.tokenize_eq_ok).1 ht
    exact ⟨by simpa using hts.readable, d, hd⟩
  · rintro ⟨hxs, d, hd⟩
    obtain ⟨text, ts, hts, rfl⟩ := exists_tokenize_lexemes hxs
    exact ⟨text, ts, _, tokenize_eq_ok_iff.1 hts, rfl, (parseTask_eq_ok_iff hts).2 ⟨d, hd, rfl⟩⟩

theorem accepted_iff_run {xs : List Lexeme} (hxs : ∀ x ∈ xs, x.Readable) :
    Accepted xs ↔ ∃ q d, Place.start.run xs = some q ∧ q.document? = some d := by
  rw [accepted_iff]
  constructor
  · rintro ⟨-, t, rfl⟩
    obtain ⟨q, hq, hd⟩ := exists_run_lexemes t
    exact ⟨q, _, hq, hd⟩
  · rintro ⟨q, d, hq, hd⟩
    obtain ⟨t, ht, -⟩ := run_start_iff.1 ⟨q, hq, hd⟩
    exact ⟨hxs, t, ht⟩

theorem viable_iff_run {xs : List Lexeme} (hxs : ∀ x ∈ xs, x.Readable) :
    Viable xs ↔ ∃ q, Place.start.run xs = some q := by
  constructor
  · rintro ⟨ys, h⟩
    obtain ⟨q, d, hq, -⟩ := (accepted_iff_run (accepted_iff.1 h).1).1 h
    rw [Place.run_append] at hq
    obtain ⟨q, hq, -⟩ := Option.bind_eq_some_iff.1 hq
    exact ⟨q, hq⟩
  · rintro ⟨p, hp⟩
    obtain ⟨q, d, hq, hd⟩ := p.run_completion
    refine ⟨p.completion, (accepted_iff_run fun x hx => ?_).2 ⟨q, d, ?_, hd⟩⟩
    · rcases List.mem_append.1 hx with hx | hx
      · exact hxs x hx
      · exact p.readable_completion x hx
    · rw [Place.run_append, hp, Option.bind_some, hq]

/-! ## Wrong places -/

/-- The first wrong place of a text: where its cutting gets stuck, a token that no accepted text has
after those before it, or the end of a text that other accepted texts only start with. -/
inductive WrongAt (cs : List Char) : Nat → Prop
  | stuck {o : Nat} (h : StuckAt cs o) : WrongAt cs o
  | token {before after : List Token} {t : Token} (h : Cuts cs cs.length (before ++ t :: after))
      (hbefore : Viable (before.map Token.lexeme))
      (ht : ¬ Viable ((before ++ [t]).map Token.lexeme)) : WrongAt cs t.offset
  | ending {ts : List Token} (h : Cuts cs cs.length ts) (hts : Viable (ts.map Token.lexeme))
      (hend : ¬ Accepted (ts.map Token.lexeme)) : WrongAt cs cs.length

theorem readFrom_eq_error_some_iff {p : Place} {ts : List Token} {t : Token} :
    readFrom p ts = .error (some t) ↔ ∃ before after q, ts = before ++ t :: after ∧
      p.run (before.map Token.lexeme) = some q ∧ q.step t.lexeme = none := by
  induction ts generalizing p with
  | nil =>
    cases hd : p.document? <;> simp [readFrom, hd]
  | cons u ts ih =>
    rw [readFrom]
    constructor
    · intro h
      cases hstep : p.step u.lexeme with
      | none =>
        rw [hstep] at h
        cases h
        exact ⟨[], ts, p, rfl, rfl, hstep⟩
      | some p' =>
        rw [hstep] at h
        obtain ⟨before, after, q, rfl, hq, ht⟩ := ih.1 h
        exact ⟨u :: before, after, q, rfl, (Place.run_of_step hstep _).trans hq, ht⟩
    · rintro ⟨_ | ⟨v, before⟩, after, q, hts, hq, ht⟩
      · cases hts
        cases hq
        simp [ht]
      · obtain ⟨rfl, rfl⟩ := List.cons.inj hts
        rw [List.map_cons, Place.run_cons] at hq
        obtain ⟨p', hstep, hq⟩ := Option.bind_eq_some_iff.1 hq
        rw [hstep]
        exact ih.2 ⟨before, after, q, rfl, hq, ht⟩

theorem readFrom_eq_error_none_iff {p : Place} {ts : List Token} :
    readFrom p ts = .error none ↔
      ∃ q, p.run (ts.map Token.lexeme) = some q ∧ q.document? = none := by
  induction ts generalizing p with
  | nil =>
    cases hd : p.document? <;> simp [readFrom, hd]
  | cons u ts ih =>
    rw [readFrom, List.map_cons, Place.run_cons]
    cases p.step u.lexeme with
    | none => simp
    | some p => simpa using ih

theorem viable_concat_iff {before : List Lexeme} {x : Lexeme} {q : Place}
    (h : ∀ y ∈ before ++ [x], y.Readable) (hq : Place.start.run before = some q) :
    Viable (before ++ [x]) ↔ ∃ p, q.step x = some p := by
  rw [viable_iff_run h, Place.run_append, hq, Option.bind_some, Place.run_cons]
  cases q.step x <;> simp

theorem Cuts.readDocument_eq_error_some_iff {cs : List Char} {ts : List Token} {t : Token}
    (h : Cuts cs cs.length ts) :
    readDocument ts = .error (some t) ↔ ∃ before after, ts = before ++ t :: after ∧
      Viable (before.map Token.lexeme) ∧ ¬ Viable ((before ++ [t]).map Token.lexeme) := by
  rw [readDocument, readFrom_eq_error_some_iff]
  refine exists_congr fun before => exists_congr fun after => ?_
  rw [exists_and_left, and_congr_right_iff]
  rintro rfl
  have hconcat : ∀ y ∈ before.map Token.lexeme ++ [t.lexeme], y.Readable := by
    have hts := h.readable
    simp only [List.mem_append, List.mem_cons] at hts
    simp only [List.mem_append, List.mem_map, List.mem_singleton]
    rintro y (⟨u, hu, rfl⟩ | rfl)
    · exact hts u (.inl hu)
    · exact hts t (.inr (.inl rfl))
  have hbefore : ∀ y ∈ before.map Token.lexeme, y.Readable :=
    fun y hy => hconcat y (List.mem_append_left _ hy)
  rw [viable_iff_run hbefore, List.map_append, List.map_singleton]
  constructor
  · rintro ⟨q, hq, ht⟩
    refine ⟨⟨q, hq⟩, fun hviable => ?_⟩
    obtain ⟨p, hp⟩ := (viable_concat_iff hconcat hq).1 hviable
    cases ht.symm.trans hp
  · rintro ⟨⟨q, hq⟩, hwrong⟩
    refine ⟨q, hq, Option.eq_none_iff_forall_ne_some.2 fun p hp => hwrong ?_⟩
    exact (viable_concat_iff hconcat hq).2 ⟨p, hp⟩

theorem Cuts.readDocument_eq_error_none_iff {cs : List Char} {ts : List Token}
    (h : Cuts cs cs.length ts) :
    readDocument ts = .error none ↔
      Viable (ts.map Token.lexeme) ∧ ¬ Accepted (ts.map Token.lexeme) := by
  have hts : ∀ x ∈ ts.map Token.lexeme, x.Readable := by simpa using h.readable
  rw [readDocument, readFrom_eq_error_none_iff, viable_iff_run hts, accepted_iff_run hts]
  constructor
  · rintro ⟨q, hq, hd⟩
    refine ⟨⟨q, hq⟩, ?_⟩
    rintro ⟨q', d, hq', hd'⟩
    cases hq.symm.trans hq'
    cases hd.symm.trans hd'
  · rintro ⟨⟨q, hq⟩, hend⟩
    cases hd : q.document? with
    | none => exact ⟨q, hq, hd⟩
    | some d => exact absurd ⟨q, d, hq, hd⟩ hend

theorem parseDocument_eq_error_iff {cs : List Char} {o : Nat} :
    parseDocument cs = .error o ↔ WrongAt cs o := by
  constructor
  · intro h
    unfold parseDocument at h
    split at h
    · next hstuck =>
      cases h
      exact .stuck (tokenize_eq_error_iff.1 hstuck)
    next ts hts =>
    have hcuts := tokenize_eq_ok_iff.1 hts
    split at h
    · cases h
    · next t ht =>
      cases h
      obtain ⟨before, after, rfl, hbefore, hwrong⟩ := hcuts.readDocument_eq_error_some_iff.1 ht
      exact .token hcuts hbefore hwrong
    · next hend =>
      cases h
      obtain ⟨hviable, hend⟩ := hcuts.readDocument_eq_error_none_iff.1 hend
      exact .ending hcuts hviable hend
  · intro h
    cases h with
    | stuck h => rw [parseDocument, h.tokenize_eq]
    | token h hbefore ht =>
      have hread := h.readDocument_eq_error_some_iff.2 ⟨_, _, rfl, hbefore, ht⟩
      simp only [parseDocument, h.tokenize_eq_ok, hread]
    | ending h hts hend =>
      have hread := h.readDocument_eq_error_none_iff.2 ⟨hts, hend⟩
      simp only [parseDocument, h.tokenize_eq_ok, hread]

theorem WrongAt.unique {cs : List Char} {o o' : Nat} (h : WrongAt cs o) (h' : WrongAt cs o') :
    o = o' :=
  Except.error.inj ((parseDocument_eq_error_iff.2 h).symm.trans (parseDocument_eq_error_iff.2 h'))

/-! ## Lines and columns -/

/-- The offset lies on the line, after as many characters of it as come before the column. -/
structure LocatedAt (cs : List Char) (o line column : Nat) : Prop where
  line : line = (cs.take o).count '\n' + 1
  column : ∃ before last, cs.take o = before ++ last ∧
    (before = [] ∨ before.getLast? = some '\n') ∧ '\n' ∉ last ∧ column = last.length + 1

/-- The text is quoted from its start on, at most twenty characters of it. -/
structure Quotes (excerpt : String) (rest : List Char) : Prop where
  whole : rest.length ≤ 20 → excerpt = .ofList rest
  cut : 20 < rest.length → excerpt = .ofList (rest.take 20) ++ "..."

theorem locatedAt_iff {cs : List Char} {o line column : Nat} :
    LocatedAt cs o line column ↔ line = (cs.take o).count '\n' + 1 ∧
      column = ((cs.take o).reverse.takeWhile (· != '\n')).length + 1 := by
  constructor
  · rintro ⟨hline, before, last, hsplit, hbefore, hlast, rfl⟩
    refine ⟨hline, ?_⟩
    have hend : before.reverse.takeWhile (· != '\n') = [] := by
      rcases hbefore with rfl | hbefore
      · rfl
      · rw [← List.head?_reverse] at hbefore
        obtain ⟨tail, htail⟩ := List.head?_eq_some_iff.1 hbefore
        simp [htail]
    have hchars : ∀ c ∈ last.reverse, (c != '\n') = true := by
      intro c hc
      rw [bne_iff_ne]
      rintro rfl
      exact hlast (List.mem_reverse.1 hc)
    rw [hsplit, List.reverse_append, List.takeWhile_append_of_pos hchars, hend, List.append_nil,
      List.length_reverse]
  · rintro ⟨hline, hcolumn⟩
    refine ⟨hline, ((cs.take o).reverse.dropWhile (· != '\n')).reverse,
      ((cs.take o).reverse.takeWhile (· != '\n')).reverse, ?_, ?_, ?_, by simpa using hcolumn⟩
    · rw [← List.reverse_append, List.takeWhile_append_dropWhile, List.reverse_reverse]
    · rw [List.getLast?_reverse, List.reverse_eq_nil_iff]
      cases hdrop : (cs.take o).reverse.dropWhile (· != '\n') with
      | nil => exact .inl rfl
      | cons c rest =>
        have hc := List.head?_dropWhile_not (· != '\n') (cs.take o).reverse
        rw [hdrop] at hc
        exact .inr (by simpa using hc)
    · intro hmem
      have := List.mem_takeWhile_imp (List.mem_reverse.1 hmem)
      simp at this

theorem LocatedAt.unique {cs : List Char} {o o' line column : Nat} (h : LocatedAt cs o line column)
    (h' : LocatedAt cs o' line column) (ho : o ≤ cs.length) (ho' : o' ≤ cs.length) : o = o' := by
  wlog hle : o ≤ o' generalizing o o'
  · exact (this h' h ho' ho (Nat.le_of_not_le hle)).symm
  obtain ⟨hline, hcolumn⟩ := locatedAt_iff.1 h
  obtain ⟨hline', hcolumn'⟩ := locatedAt_iff.1 h'
  have hsplit : cs.take o' = cs.take o ++ (cs.drop o).take (o' - o) := by
    rw [← List.take_add, Nat.add_sub_cancel' hle]
  have hmid : '\n' ∉ (cs.drop o).take (o' - o) := by
    rw [← List.count_eq_zero]
    rw [hsplit, List.count_append] at hline'
    omega
  have hchars : ∀ c ∈ ((cs.drop o).take (o' - o)).reverse, (c != '\n') = true := by
    intro c hc
    rw [bne_iff_ne]
    rintro rfl
    exact hmid (List.mem_reverse.1 hc)
  rw [hsplit, List.reverse_append, List.takeWhile_append_of_pos hchars, List.length_append,
    List.length_reverse, List.length_take, List.length_drop] at hcolumn'
  omega

theorem ParseFault.quotes_ofOffset (cs : List Char) (o : Nat) :
    Quotes (ofOffset cs o).excerpt (cs.drop o) :=
  ⟨fun h => if_neg (Nat.not_lt.2 h), fun h => if_pos h⟩

theorem WrongAt.le_length {cs : List Char} {o : Nat} (h : WrongAt cs o) : o ≤ cs.length := by
  cases h with
  | stuck h => exact h.1.le
  | token h _ _ => exact (h.offset_lt _ (by simp)).le
  | ending _ _ _ => exact Nat.le_refl _

/-- A text that is not accepted has exactly one first wrong place. Line and column of the fault
locate it, and no other place of the text, and the message quotes the text from there on. -/
theorem parseTask_error_at_first_wrong {text : String} {f : ParseFault}
    (h : parseTask text = .error f) :
    ∃ o ≤ text.toList.length, (∀ o', WrongAt text.toList o' ↔ o' = o) ∧
      LocatedAt text.toList o f.line f.column ∧
      (∀ o' ≤ text.toList.length, LocatedAt text.toList o' f.line f.column → o' = o) ∧
      ∃ excerpt, Quotes excerpt (text.toList.drop o) ∧
        f.message = "Nieparsowalna treść w linii " ++ toString f.line ++ ", kolumna " ++
          toString f.column ++ ": '" ++ excerpt ++ "'" := by
  obtain ⟨o, ho, rfl⟩ : ∃ o, parseDocument text.toList = .error o ∧
      f = .ofOffset text.toList o := by
    unfold parseTask at h
    split at h
    · cases h
    · next o ho =>
      cases h
      exact ⟨o, ho, rfl⟩
  have hwrong := parseDocument_eq_error_iff.1 ho
  have hlocated : LocatedAt text.toList o (ParseFault.ofOffset text.toList o).line
      (ParseFault.ofOffset text.toList o).column := locatedAt_iff.2 ⟨rfl, rfl⟩
  refine ⟨o, hwrong.le_length, fun o' => ⟨fun h => h.unique hwrong, fun h => h ▸ hwrong⟩,
    hlocated, fun o' ho' h => h.unique hlocated ho' hwrong.le_length, ?_⟩
  exact ⟨_, ParseFault.quotes_ofOffset _ _, rfl⟩

theorem wrongAt_after_not :
    parseTask "a.\n:- b, not :- c." = .error ⟨2, 11, ":- c."⟩ ∧
      ∀ o, WrongAt "a.\n:- b, not :- c.".toList o ↔ o = 13 := by
  have h : parseTask "a.\n:- b, not :- c." = .error ⟨2, 11, ":- c."⟩ := by decide
  obtain ⟨o, -, hwrong, -, hunique, -⟩ := parseTask_error_at_first_wrong h
  have ho : 13 = o := hunique 13 (by decide) (locatedAt_iff.2 (by decide))
  exact ⟨h, ho ▸ hwrong⟩

end AnswerSetLearning
