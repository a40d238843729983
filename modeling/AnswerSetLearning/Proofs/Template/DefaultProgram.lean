import AnswerSetLearning.Proofs.Template.DefaultTemplate

namespace AnswerSetLearning

namespace LearningTask

def framed (before after : String) (l : Literal) : String := before ++ l.text ++ after

def headLine : Literal → String := framed "#modeh(" ")."

def positiveLine : Literal → String := framed "#modeb(" ", (positive))."

def generalLine : Literal → String := framed "#modeb(" ")."

def contextText (ls : List Literal) : String := String.join (ls.map (framed " " "."))

def exampleLine (sign : String) (e : TrainingExample) : String :=
  "#" ++ sign ++ "(\x7b" ++ joinWith ", " (e.incl.map Literal.text) ++ "\x7d, \x7b" ++
    joinWith ", " (e.excl.map Literal.text) ++ "\x7d, \x7b" ++ contextText e.ctx ++ " \x7d)."

def lines (t : LearningTask) : List String :=
  "% ===== tło =====" :: (t.background.map Rule.text ++
    "" :: "% ===== przestrzeń poszukiwań =====" :: (t.space.head.map headLine ++
      (t.space.positiveBody.map positiveLine ++ (t.space.generalBody.map generalLine ++
        "" :: "% ===== przykłady pozytywne =====" :: (t.positives.map (exampleLine "pos") ++
          "" :: "% ===== przykłady negatywne =====" :: t.negatives.map (exampleLine "neg"))))))

end LearningTask

namespace Template

section Expressions

variable {env : Env} {e : Expr} {v u : Value}

theorem value_of_eval (h : e.eval env = .ok (.ok v)) : e.value env = .ok v := by
  rw [Expr.value, h]
  rfl

theorem eval_name {x : String} (h : env.lookup x = some v) :
    (Expr.name x).eval env = .ok (.ok v) := by
  rw [Expr.eval, Env.find, h]
  rfl

theorem eval_item {field : String} (h : e.eval env = .ok (.ok v))
    (hfield : v.field? field = some (.ok u)) :
    (Expr.item e (.text field)).eval env = .ok (.ok u) := by
  rw [Expr.eval, h]
  simp only [bind, Except.bind, pure, Except.pure, Value.item, Value.member, hfield]

theorem mapM_display (texts : List String) :
    (texts.map Value.text).mapM Value.display = .ok texts := by
  induction texts with
  | nil => rfl
  | cons s texts ih =>
    rw [List.map_cons, List.mapM_cons, ih]
    rfl

theorem eval_joined {texts : List String} (sep : String)
    (h : e.eval env = .ok (.ok (.ofTexts texts))) :
    (Expr.filtered e "join" [(none, .constant (.text sep))]).eval env =
      .ok (.ok (.text (joinWith sep texts))) := by
  have hargs : evalArgs env [(none, .constant (.text sep))] = .ok [(none, .ok (.text sep))] := rfl
  have hjoined : joined (.ok (.text sep)) none (.ok (.ofTexts texts)) =
      .ok (joinWith sep texts) := by
    have helements : (Value.ofTexts texts).elements = .ok (texts.map Value.text) := rfl
    simp only [joined, bind, Except.bind, helements, mapM_display, Value.display]
    rfl
  have hfilter : applyFilter "join" [(none, .ok (.text sep))] (.ok (.ofTexts texts)) =
      .ok (.text (joinWith sep texts)) := by
    rw [applyFilter, if_pos rfl]
    simp only [boundArgs, Option.map_some, List.lookup_cons_self, Option.getD_some]
    have hnone : List.lookup "attribute" [("d", (Except.ok (.text sep) : Lookup))] = none := rfl
    rw [hnone, hjoined]
    rfl
  rw [Expr.eval, h, hargs]
  simp only [bind, Except.bind, hfilter]
  rfl

end Expressions

section Nodes

variable {α : Type} {env : Env} {n : Node} {ns : List Node} {s t : String} {w : α → Value}
  {text : α → String}

theorem renderNodes_cons (hn : n.render env = .ok s) (hns : renderNodes env ns = .ok t) :
    renderNodes env (n :: ns) = .ok (s ++ t) := by
  rw [renderNodes, hn, hns]
  rfl

theorem renderNodes_text (hns : renderNodes env ns = .ok t) :
    renderNodes env (.text s :: ns) = .ok (s ++ t) :=
  renderNodes_cons (by rw [Node.render]) hns

theorem renderNodes_lastText : renderNodes env [.text s] = .ok s :=
  (renderNodes_text rfl).trans (by rw [String.append_empty])

theorem renderNodes_print {e : Expr} (he : e.eval env = .ok (.ok (.text s)))
    (hns : renderNodes env ns = .ok t) : renderNodes env (.print e :: ns) = .ok (s ++ t) :=
  renderNodes_cons (by rw [Node.render, value_of_eval he]; rfl) hns

theorem renderRounds_map {f : Value → Value → Except Problem String} {as : List α}
    (hf : ∀ a r, f (w a) r = .ok (text a)) (before : List Value) :
    renderRounds f before (as.map w) = .ok (String.join (as.map text)) := by
  induction as generalizing before with
  | nil => rfl
  | cons a as ih =>
    rw [List.map_cons, renderRounds, hf, ih]
    simp [bind, Except.bind, pure, Except.pure]

theorem render_loop {x : String} {body : List Node} {source : Expr} {as : List α}
    (hsource : source.eval env = .ok (.ok (.list (as.map w))))
    (hbody : ∀ a r, renderNodes ((x, w a) :: (roundName, r) :: env) body = .ok (text a)) :
    (Node.loop x source body []).render env = .ok (String.join (as.map text)) := by
  rw [Node.render, value_of_eval hsource]
  cases as with
  | nil => rfl
  | cons a as =>
    exact renderRounds_map (f := fun v r => renderNodes ((x, v) :: (roundName, r) :: env) body)
      hbody []

theorem render_lineLoop {x : String} {body : List Node} {source : Expr} {as : List α}
    (hsource : source.eval env = .ok (.ok (.list (as.map w))))
    (hbody : ∀ a r, renderNodes ((x, w a) :: (roundName, r) :: env) body = .ok (text a ++ "\n")) :
    (Node.loop x source body []).render env = .ok (unlines (as.map text)) := by
  rw [render_loop hsource hbody, unlines_eq_join, List.map_map]
  rfl

end Nodes

section Loops

variable {env : Env}

theorem render_wordLoop {words : String} {ls : List Literal} (before after : String)
    (hwords : (Expr.item (.name "search_space") (.text words)).eval env =
      .ok (.ok (ofLiterals ls))) :
    (wordLoop words before after).render env =
      .ok (unlines (ls.map (LearningTask.framed before after))) := by
  refine render_lineLoop (w := fun l => .text l.text) ?_ fun l r => ?_
  · rw [hwords, ofLiterals, Value.ofTexts, List.map_map]
    rfl
  · rw [LearningTask.framed, String.append_assoc, String.append_assoc]
    exact renderNodes_text (renderNodes_print (eval_name rfl) renderNodes_lastText)

theorem render_contextLoop {e : TrainingExample}
    (he : (Expr.name "e").eval env = .ok (.ok (ofExample e))) :
    contextLoop.render env = .ok (LearningTask.contextText e.ctx) := by
  have hctx : (Expr.item (.name "e") (.text "ctx")).eval env = .ok (.ok (ofLiterals e.ctx)) :=
    eval_item he rfl
  refine render_loop (w := fun l => .text l.text) ?_ fun l r => ?_
  · rw [hctx, ofLiterals, Value.ofTexts, List.map_map]
    rfl
  · rw [LearningTask.framed, String.append_assoc]
    exact renderNodes_text (renderNodes_print (eval_name rfl) renderNodes_lastText)

theorem render_exampleLoop {list : String} {es : List TrainingExample} (sign : String)
    (hlist : (Expr.name list).eval env = .ok (.ok (.list (es.map ofExample)))) :
    (exampleLoop sign list).render env =
      .ok (unlines (es.map (LearningTask.exampleLine sign))) := by
  refine render_lineLoop hlist fun e r => ?_
  have he : (Expr.name "e").eval (("e", ofExample e) :: (roundName, r) :: env) =
    .ok (.ok (ofExample e)) := eval_name rfl
  have hprinted (field : String) (ls : List Literal)
      (hfield : (ofExample e).field? field = some (.ok (ofLiterals ls))) :=
    eval_joined ", " (eval_item he hfield)
  refine (renderNodes_text (renderNodes_print (hprinted "incl" e.incl rfl)
    (renderNodes_text (renderNodes_print (hprinted "excl" e.excl rfl)
    (renderNodes_text (renderNodes_cons (render_contextLoop he)
    renderNodes_lastText)))))).trans (congrArg Except.ok ?_)
  have hend : " \x7d).\n" = " \x7d)." ++ "\n" := rfl
  simp only [LearningTask.exampleLine, hend, String.append_assoc]

end Loops

section Default

variable (t : LearningTask)

theorem render_backgroundLoop :
    (Node.loop "rule" (.name "background") [.print (.name "rule"), .text "\n"] []).render
      (context t) = .ok (unlines (t.background.map Rule.text)) := by
  refine render_lineLoop (w := fun r => .text r.text) ?_ fun r round => ?_
  · rw [eval_name (v := .ofTexts (t.background.map Rule.text)) rfl, Value.ofTexts, List.map_map]
    rfl
  · exact renderNodes_print (eval_name rfl) renderNodes_lastText

def ofSpace (space : SearchSpace) : Value :=
  .mapping [("positive_body", ofLiterals space.positiveBody),
    ("general_body", ofLiterals space.generalBody), ("head", ofLiterals space.head)]

theorem render_default : render t none = .ok (unlines t.lines) := by
  have hspace : (Expr.name "search_space").eval (context t) = .ok (.ok (ofSpace t.space)) :=
    eval_name rfl
  have hwords (words before after : String) (ls : List Literal)
      (h : (ofSpace t.space).field? words = some (.ok (ofLiterals ls))) :=
    render_wordLoop before after (eval_item hspace h)
  have hexamples (sign list : String) (es : List TrainingExample)
      (h : (context t).lookup list = some (.list (es.map ofExample))) :=
    render_exampleLoop sign (eval_name h)
  rw [render, renderIn, Option.getD_none, parseChecked_defaultTemplate]
  refine (renderNodes_text (renderNodes_cons (render_backgroundLoop t) (renderNodes_text
    (renderNodes_cons (hwords "head" "#modeh(" ")." t.space.head rfl)
    (renderNodes_cons (hwords "positive_body" "#modeb(" ", (positive))." t.space.positiveBody rfl)
    (renderNodes_cons (hwords "general_body" "#modeb(" ")." t.space.generalBody rfl)
    (renderNodes_text (renderNodes_cons (hexamples "pos" "pos_examples" t.positives rfl)
    (renderNodes_text (renderNodes_cons (hexamples "neg" "neg_examples" t.negatives rfl)
    (by rw [renderNodes]))))))))))).trans (congrArg Except.ok ?_)
  have hheading (h : String) (rest : List String) :
      unlines ("" :: h :: rest) = ("\n" ++ h ++ "\n") ++ unlines rest := by
    simp [unlines, String.append_assoc]
  rw [LearningTask.lines, unlines]
  simp only [unlines_append, hheading, String.append_empty]
  rfl

/-- The program of the default template, spelled out: every word and every example has a line of its
own, in the order of the task, and nothing else stands between the headings. -/
theorem render_default_text :
    render t none = .ok (unlines (
      ["% ===== tło ====="] ++
      t.background.map Rule.text ++
      ["", "% ===== przestrzeń poszukiwań ====="] ++
      t.space.head.map (fun l => "#modeh(" ++ l.text ++ ").") ++
      t.space.positiveBody.map (fun l => "#modeb(" ++ l.text ++ ", (positive)).") ++
      t.space.generalBody.map (fun l => "#modeb(" ++ l.text ++ ").") ++
      ["", "% ===== przykłady pozytywne ====="] ++
      t.positives.map (fun e =>
        "#pos(\x7b" ++ joinWith ", " (e.incl.map Literal.text) ++ "\x7d, \x7b" ++
          joinWith ", " (e.excl.map Literal.text) ++ "\x7d, \x7b" ++
          String.join (e.ctx.map fun l => " " ++ l.text ++ ".") ++ " \x7d).") ++
      ["", "% ===== przykłady negatywne ====="] ++
      t.negatives.map (fun e =>
        "#neg(\x7b" ++ joinWith ", " (e.incl.map Literal.text) ++ "\x7d, \x7b" ++
          joinWith ", " (e.excl.map Literal.text) ++ "\x7d, \x7b" ++
          String.join (e.ctx.map fun l => " " ++ l.text ++ ".") ++ " \x7d)."))) := by
  rw [render_default, LearningTask.lines]
  simp only [List.append_assoc, List.cons_append, List.nil_append]
  rfl

end Default

end Template

end AnswerSetLearning
