import AnswerSetLearning.Proofs.Command.Steps

namespace AnswerSetLearning

open Markup Step

variable {w : World} {o : ConvertOptions} {input : Option String} {t : Task} {e : Ending}
  {settings : Settings} {path : Option Path} {template : Option String} {task : LearningTask}
  {program : String}

/-! ### The task -/

namespace World

/-- What reading the input gives: bytes, or the message that there are none. An input without a name
is what comes in. -/
def reads? (w : World) (input : Option String) : Option (Except String (List Nat)) :=
  match input.bind Path.ofText? with
  | none =>
    match w.stdin with
    | .closed => none
    | .failing e => some (.error e.message)
    | .bytes bytes => some (.ok bytes)
  | some p =>
    match w.node p with
    | .missing | .unreachable _ => none
    | .directory => some (.error (FileFault.message ⟨.isDirectory, p⟩))
    | .unreadable e => some (.error (FileFault.message ⟨.system e, p⟩))
    | .file bytes => some (.ok bytes)

inductive HoldsTask (w : World) (input : Option String) : Task → Prop
  | intro {bytes : List Nat} {text : String} {t : Task} (hread : w.reads? input = some (.ok bytes))
      (hquiet : w.interrupt ≠ some .reading) (htext : decodeText bytes = .ok text)
      (htask : parseTask text = .ok t) : HoldsTask w input t

/-- There is no input to be read, and no message says so: there is nothing of this name, and the
name is not a text that a message can hold; or the way to it is barred; or nothing can come in. -/
inductive LacksTask (w : World) (input : Option String) : Uncaught → Prop
  | missing {p : Path} {f : Markup.Fault} (hpath : input.bind Path.ofText? = some p)
      (hnode : w.node p = .missing) (hname : plain p.text = .error f) :
      LacksTask w input (.markup f)
  | unreachable {p : Path} {e : SystemError} (hpath : input.bind Path.ofText? = some p)
      (hnode : w.node p = .unreachable e) : LacksTask w input (.file ⟨.system e, p⟩)
  | closed (hpath : input.bind Path.ofText? = none) (hstdin : w.stdin = .closed) :
      LacksTask w input .noInput

structure StopsReading (w : World) (input : Option String) : Prop where
  interrupt : w.interrupt = some .reading
  reads : (w.reads? input).isSome = true

inductive HoldsTemplate (w : World) : Option Path → Option String → Prop
  | none : HoldsTemplate w none none
  | file {p : Path} {bytes : List Nat} {text : String} (hnode : w.node p = .file bytes)
      (htext : decodeText bytes = .ok text) : HoldsTemplate w (some p) (some text)

/-- A template file that cannot be read, unless it is missing. -/
inductive SpoilsTemplate (w : World) : Option Path → Uncaught → Prop
  | unreachable {p : Path} {e : SystemError} (hnode : w.node p = .unreachable e) :
      SpoilsTemplate w (some p) (.file ⟨.system e, p⟩)
  | unreadable {p : Path} {e : SystemError} (hnode : w.node p = .unreadable e) :
      SpoilsTemplate w (some p) (.file ⟨.system e, p⟩)
  | directory {p : Path} (hnode : w.node p = .directory) :
      SpoilsTemplate w (some p) (.file ⟨.isDirectory, p⟩)
  | bytes {p : Path} {bytes : List Nat} {f : Utf8Fault} (hnode : w.node p = .file bytes)
      (htext : decodeText bytes = .error f) : SpoilsTemplate w (some p) (.decoding f)

end World

theorem readTask_eq {read : Except String (List Nat)} (h : w.reads? input = some read) :
    readTask w input = taskFrom w read := by
  cases hpath : input.bind Path.ofText? with
  | none =>
    cases hstdin : w.stdin
    all_goals
      simp only [World.reads?, readTask, hpath, hstdin, reduceCtorEq, Option.some.injEq] at h ⊢
    all_goals rw [h]
  | some p =>
    cases hnode : w.node p
    all_goals
      simp only [World.reads?, readTask, hpath, hnode, reduceCtorEq, Option.some.injEq] at h ⊢
    all_goals rw [h]

theorem yields_readTask_of_lacksTask {f : Uncaught} (h : w.LacksTask input f) :
    (readTask w input).Yields (.error (.uncaught f)) := by
  cases h with
  | missing hpath hnode hname =>
    simp only [readTask, hpath, hnode]
    exact (yields_say_error ((plain_missingTask_eq_error_iff _).2 hname)).bind_error _
  | unreachable hpath hnode =>
    simp only [readTask, hpath, hnode]
    exact yields_stop _
  | closed hpath hstdin =>
    simp only [readTask, hpath, hstdin]
    exact yields_stop _

theorem yields_readTask (h : w.HoldsTask input t) : (readTask w input).Yields (.ok t) := by
  obtain ⟨hread, hquiet, htext, htask⟩ := h
  rw [readTask_eq hread]
  refine (yields_interruptible_of_ne hquiet).bind ?_
  simp only [decodeTask, htext, htask]
  exact yields_pure t

theorem yields_readTask_of_stopsReading (h : w.StopsReading input) :
    (readTask w input).Yields (.error .interrupted) := by
  obtain ⟨hinterrupt, hreads⟩ := h
  obtain ⟨read, hread⟩ := Option.isSome_iff_exists.1 hreads
  rw [readTask_eq hread]
  exact (yields_interruptible_of_eq hinterrupt).bind_error _

theorem decodeTask_cases (bytes : List Nat) :
    (∃ text t, decodeText bytes = .ok text ∧ parseTask text = .ok t) ∨
      (decodeTask bytes).Yields (.error (.exit 1)) := by
  cases htext : decodeText bytes with
  | error f =>
    refine .inr ?_
    rw [decodeTask, htext]
    exact yields_failReading _
  | ok text =>
    cases htask : parseTask text with
    | error f =>
      refine .inr ?_
      rw [decodeTask, htext]
      simp only [htask]
      exact yields_fail _
    | ok t => exact .inl ⟨text, t, rfl, htask⟩

theorem taskFrom_cases {read : Except String (List Nat)} (h : w.reads? input = some read) :
    (∃ t, w.HoldsTask input t) ∨ w.StopsReading input ∨
      (taskFrom w read).Yields (.error (.exit 1)) := by
  by_cases hinterrupt : w.interrupt = some .reading
  · exact .inr (.inl ⟨hinterrupt, by rw [h]; rfl⟩)
  have hstep := yields_interruptible_of_ne hinterrupt
  cases read with
  | error message => exact .inr (.inr (hstep.bind (yields_failReading _)))
  | ok bytes =>
    obtain ⟨text, t, htext, htask⟩ | hexit := decodeTask_cases bytes
    · exact .inl ⟨t, .intro h hinterrupt htext htask⟩
    · exact .inr (.inr (hstep.bind hexit))

theorem readTask_cases_of_none (h : w.reads? input = none) :
    (∃ f, w.LacksTask input f) ∨ (readTask w input).Yields (.error (.exit 1)) := by
  unfold World.reads? at h
  split at h
  · next hpath =>
    split at h <;> cases h
    next hstdin => exact .inl ⟨_, .closed hpath hstdin⟩
  · next p hpath =>
    split at h <;> cases h
    · next hnode =>
      cases hmessage : plain ("[red]Brak pliku zadania:[/red] " ++ p.text) with
      | error f =>
        exact .inl ⟨_, .missing hpath hnode ((plain_missingTask_eq_error_iff _).1 hmessage)⟩
      | ok text =>
        refine .inr ?_
        simp only [readTask, hpath, hnode]
        exact yields_say_exit ⟨text, hmessage⟩
    · next hnode => exact .inl ⟨_, .unreachable hpath hnode⟩

theorem readTask_cases (w : World) (input : Option String) :
    (∃ t, w.HoldsTask input t) ∨ (∃ f, w.LacksTask input f) ∨ w.StopsReading input ∨
      (readTask w input).Yields (.error (.exit 1)) := by
  cases hread : w.reads? input with
  | none => exact (readTask_cases_of_none hread).elim (.inr ∘ .inl) (.inr ∘ .inr ∘ .inr)
  | some read =>
    rw [readTask_eq hread]
    exact (taskFrom_cases hread).imp_right .inr

/-! ### The template -/

theorem yields_readTemplate (h : w.HoldsTemplate path template) :
    (readTemplate w path).Yields (.ok template) := by
  cases h with
  | none => exact yields_pure none
  | file hnode htext =>
    simp only [readTemplate, hnode, htext]
    exact (yields_pure _).bind (yields_pure _)

theorem yields_readTemplate_of_spoilsTemplate {f : Uncaught} (h : w.SpoilsTemplate path f) :
    (readTemplate w path).Yields (.error (.uncaught f)) := by
  cases h with
  | unreachable hnode =>
    simp only [readTemplate, hnode]
    exact yields_stop _
  | unreadable hnode =>
    simp only [readTemplate, hnode]
    exact yields_stop _
  | directory hnode =>
    simp only [readTemplate, hnode]
    exact yields_stop _
  | bytes hnode htext =>
    simp only [readTemplate, hnode, htext]
    exact (yields_stop _).bind_error _

theorem readTemplate_cases (w : World) (path : Option Path) :
    (∃ template, w.HoldsTemplate path template) ∨ (∃ f, w.SpoilsTemplate path f) ∨
      (readTemplate w path).Yields (.error (.exit 1)) := by
  cases path with
  | none => exact .inl ⟨none, .none⟩
  | some p =>
    cases hnode : w.node p with
    | missing =>
      refine .inr (.inr ?_)
      simp only [readTemplate, hnode]
      exact yields_say_exit (wellFormed_red _)
    | unreachable e => exact .inr (.inl ⟨_, .unreachable hnode⟩)
    | unreadable e => exact .inr (.inl ⟨_, .unreadable hnode⟩)
    | directory => exact .inr (.inl ⟨_, .directory hnode⟩)
    | file bytes =>
      cases htext : decodeText bytes with
      | error f => exact .inr (.inl ⟨_, .bytes hnode htext⟩)
      | ok text => exact .inl ⟨some text, .file hnode htext⟩

/-! ### The program -/

theorem yields_recordUniverse (stats : Option UniverseStats) :
    (recordUniverse stats).Yields (.ok ()) :=
  yields_modify fun _ => ⟨rfl, rfl, rfl, rfl, rfl⟩

theorem yields_buildLearningTask (hquiet : w.interrupt ≠ some .computing)
    (hbuilt : (buildTask t).result = .ok task) : (buildLearningTask w t).Yields (.ok task) := by
  refine (yields_interruptible_of_ne hquiet).bind ((yields_recordUniverse _).bind ?_)
  rw [hbuilt]
  exact yields_pure task

theorem buildLearningTask_cases (w : World) (t : Task) :
    (w.interrupt ≠ some .computing ∧ ∃ task, (buildTask t).result = .ok task) ∨
      (w.interrupt = some .computing ∧ (buildLearningTask w t).Yields (.error .interrupted)) ∨
      (buildLearningTask w t).Yields (.error (.exit 1)) := by
  by_cases hinterrupt : w.interrupt = some .computing
  · exact .inr (.inl ⟨hinterrupt, (yields_interruptible_of_eq hinterrupt).bind_error _⟩)
  have hstep := yields_interruptible_of_ne hinterrupt
  cases hbuilt : (buildTask t).result with
  | ok task => exact .inl ⟨hinterrupt, task, rfl⟩
  | error f =>
    refine .inr (.inr (hstep.bind ((yields_recordUniverse _).bind ?_)))
    rw [hbuilt]
    exact yields_fail _

theorem renderProgram_cases (w : World) (task : LearningTask) (template : Option String) :
    (∃ program, rendering w task template = .program program) ∨
      (∃ className, rendering w task template = .raised className) ∨
      (renderProgram w task template).Yields (.error (.exit 1)) := by
  cases hrender : rendering w task template with
  | program program => exact .inl ⟨program, rfl⟩
  | raised className => exact .inr (.inl ⟨className, rfl⟩)
  | faulty detail =>
    refine .inr (.inr ?_)
    rw [renderProgram, hrender]
    exact yields_fail _

def ConvertOptions.templatePath (o : ConvertOptions) (settings : Settings) : Option Path :=
  (o.template.bind Path.ofText?).or settings.template

structure World.Prepares (w : World) (o : ConvertOptions) (settings : Settings)
    (template : Option String) : Prop where
  reads : readSettings w.env = .ok settings
  holds : w.HoldsTemplate (o.templatePath settings) template

structure World.Builds (w : World) (o : ConvertOptions) (settings : Settings)
    (template : Option String) (task : LearningTask) : Prop
    extends w.Prepares o settings template where
  quiet : w.interrupt ≠ some .computing
  built : ∃ t, w.HoldsTask o.input t ∧ (buildTask t).result = .ok task

inductive World.Renders (w : World) (o : ConvertOptions) (settings : Settings) : String → Prop
  | intro {template : Option String} {task : LearningTask} {program : String}
      (hbuilds : w.Builds o settings template task)
      (hrender : rendering w task template = .program program) : Renders w o settings program

/-- A failure on the way to the program that nothing reports. -/
inductive World.Obstructs (w : World) (o : ConvertOptions) : Uncaught → Prop
  | settings {f : WordFault} (h : readSettings w.env = .error f) : Obstructs w o (.words f)
  | template {settings : Settings} {f : Uncaught} (hsettings : readSettings w.env = .ok settings)
      (htemplate : w.SpoilsTemplate (o.templatePath settings) f) : Obstructs w o f
  | task {settings : Settings} {template : Option String} {f : Uncaught}
      (hprepares : w.Prepares o settings template) (htask : w.LacksTask o.input f) :
      Obstructs w o f
  | rendering {settings : Settings} {template : Option String} {task : LearningTask}
      {className : String} (hbuilds : w.Builds o settings template task)
      (hrender : rendering w task template = .raised className) :
      Obstructs w o (.template className)

theorem yields_settings (h : readSettings w.env = .ok settings) :
    (ofExcept (fun e => .uncaught (.words e)) (readSettings w.env)).Yields (.ok settings) := by
  rw [h]
  exact yields_pure settings

def deliver (w : World) (o : ConvertOptions) (settings : Settings) (program : String) :
    Step Unit := do
  putProgram w o program
  endPhase w .output
  if o.run then runIlasp w o settings program else pure ()

section Convert

theorem yields_convertTask_of_template (h : readSettings w.env = .ok settings)
    (htemplate : (readTemplate w (o.templatePath settings)).Yields (.error e)) :
    (convertTask w o).Yields (.error e) :=
  (yields_settings h).bind (htemplate.bind_error _)

theorem yields_convertTask_of_task (h : w.Prepares o settings template)
    (htask : (readTask w o.input).Yields (.error e)) : (convertTask w o).Yields (.error e) :=
  (yields_settings h.reads).bind ((yields_readTemplate h.holds).bind
    ((yields_say wellFormed_parsing).bind (htask.bind_error _)))

theorem yields_convertTask_of_build (h : w.Prepares o settings template)
    (htask : w.HoldsTask o.input t) (hbuild : (buildLearningTask w t).Yields (.error e)) :
    (convertTask w o).Yields (.error e) :=
  (yields_settings h.reads).bind ((yields_readTemplate h.holds).bind
    ((yields_say wellFormed_parsing).bind ((yields_readTask htask).bind
      ((yields_endPhase w .parse).bind ((yields_say wellFormed_converting).bind
        (hbuild.bind_error _))))))

theorem yields_convertTask_of_render (h : w.Builds o settings template task)
    (hrender : (renderProgram w task template).Yields (.error e)) :
    (convertTask w o).Yields (.error e) := by
  obtain ⟨t, htask, hbuilt⟩ := h.built
  exact (yields_settings h.reads).bind ((yields_readTemplate h.holds).bind
    ((yields_say wellFormed_parsing).bind ((yields_readTask htask).bind
      ((yields_endPhase w .parse).bind ((yields_say wellFormed_converting).bind
        ((yields_buildLearningTask h.quiet hbuilt).bind (hrender.bind_error _)))))))

theorem convertTask_comesTo (h : w.Renders o settings program) :
    (convertTask w o).ComesTo (deliver w o settings program) := by
  obtain @⟨template, task, _, hbuilds, hrender⟩ := h
  obtain ⟨t, htask, hbuilt⟩ := hbuilds.built
  have hprogram : (renderProgram w task template).Yields (.ok program) := by
    rw [renderProgram, hrender]
    exact yields_pure program
  exact (yields_settings hbuilds.reads).comesTo ((yields_readTemplate hbuilds.holds).comesTo
    ((yields_say wellFormed_parsing).comesTo ((yields_readTask htask).comesTo
      ((yields_endPhase w .parse).comesTo ((yields_say wellFormed_converting).comesTo
        ((yields_buildLearningTask hbuilds.quiet hbuilt).comesTo (hprogram.comesTo
          ((yields_endPhase w .convert).comesTo ((yields_say (wellFormed_examples _ _)).comesTo
            (.refl _))))))))))

theorem yields_convertTask_of_obstructs {f : Uncaught} (h : w.Obstructs o f) :
    (convertTask w o).Yields (.error (.uncaught f)) := by
  cases h with
  | settings h =>
    refine Yields.bind_error ?_ _
    rw [h]
    exact yields_stop _
  | template hsettings htemplate =>
    exact yields_convertTask_of_template hsettings
      (yields_readTemplate_of_spoilsTemplate htemplate)
  | task hprepares htask =>
    exact yields_convertTask_of_task hprepares (yields_readTask_of_lacksTask htask)
  | rendering hbuilds hrender =>
    refine yields_convertTask_of_render hbuilds ?_
    rw [renderProgram, hrender]
    exact yields_stop _

theorem convertTask_cases (w : World) (o : ConvertOptions) :
    (∃ settings program, w.Renders o settings program) ∨ (∃ f, w.Obstructs o f) ∨
      (w.interrupt ≠ none ∧ (convertTask w o).Yields (.error .interrupted)) ∨
      (convertTask w o).Yields (.error (.exit 1)) := by
  cases hsettings : readSettings w.env with
  | error f => exact .inr (.inl ⟨_, .settings hsettings⟩)
  | ok settings =>
    obtain ⟨template, htemplate⟩ | ⟨f, htemplate⟩ | hexit :=
      readTemplate_cases w (o.templatePath settings)
    rotate_left
    · exact .inr (.inl ⟨f, .template hsettings htemplate⟩)
    · exact .inr (.inr (.inr (yields_convertTask_of_template hsettings hexit)))
    have hprepares : w.Prepares o settings template := ⟨hsettings, htemplate⟩
    obtain ⟨t, htask⟩ | ⟨f, htask⟩ | hstops | hexit := readTask_cases w o.input
    rotate_left
    · exact .inr (.inl ⟨_, .task hprepares htask⟩)
    · exact .inr (.inr (.inl ⟨by simp [hstops.interrupt], yields_convertTask_of_task hprepares
        (yields_readTask_of_stopsReading hstops)⟩))
    · exact .inr (.inr (.inr (yields_convertTask_of_task hprepares hexit)))
    obtain ⟨hquiet, task, hbuilt⟩ | ⟨hinterrupt, hstop⟩ | hexit := buildLearningTask_cases w t
    rotate_left
    · exact .inr (.inr (.inl ⟨by simp [hinterrupt],
        yields_convertTask_of_build hprepares htask hstop⟩))
    · exact .inr (.inr (.inr (yields_convertTask_of_build hprepares htask hexit)))
    have hbuilds : w.Builds o settings template task := ⟨hprepares, hquiet, t, htask, hbuilt⟩
    obtain ⟨program, hrender⟩ | ⟨className, hrender⟩ | hexit := renderProgram_cases w task template
    · exact .inl ⟨settings, program, hbuilds, hrender⟩
    · exact .inr (.inl ⟨_, .rendering hbuilds hrender⟩)
    · exact .inr (.inr (.inr (yields_convertTask_of_render hbuilds hexit)))

end Convert

end AnswerSetLearning
