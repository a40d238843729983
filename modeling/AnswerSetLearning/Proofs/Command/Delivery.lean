import AnswerSetLearning.Proofs.Command.Sizes
import AnswerSetLearning.Proofs.Command.Stages

namespace AnswerSetLearning

open Markup Step

variable {α : Type} {w : World} {o : ConvertOptions} {settings : Settings} {program answer : String}
  {p : Path} {written : List (Path × String)} {call : Call} {s s' : Session}
  {args : List (Option String)} {f : Uncaught}

/-! ### Texts that are written -/

namespace Room

variable {room : Room} {text : String}

theorem taken_of_fault?_eq_none (h : room.fault? text = none) : room.taken text = text := by
  cases room with
  | enough => rfl
  | upTo size e =>
    have hsize : text.toList.length ≤ size := by
      rw [String.length_toList]
      simpa [fault?] using h
    rw [taken, List.take_of_length_le hsize, String.ofList_toList]

end Room

namespace World

def opened (w : World) (written : List (Path × String)) (p : Path) : Except FileProblem Room :=
  openFile w { Session.start w with written } p

def kept (w : World) (written : List (Path × String)) (p : Path) (text : String) :
    List (Path × String) :=
  match w.opened written p with
  | .ok room => written.filter (·.1 ≠ p) ++ [(p, room.taken text)]
  | .error _ => written

def writeFault? (w : World) (written : List (Path × String)) (p : Path) (text : String) :
    Option FileProblem :=
  match w.opened written p with
  | .ok room => (room.fault? text).map .device
  | .error problem => some problem

def streamFault? (w : World) (o : ConvertOptions) (program : String) : Option Uncaught :=
  if o.run then temporaryFault? w program else outputFault? w program

end World

theorem kept_of_ok {room : Room} (h : w.opened written p = .ok room) (text : String) :
    w.kept written p text = written.filter (·.1 ≠ p) ++ [(p, room.taken text)] := by
  simp only [World.kept, h]

theorem kept_of_error {problem : FileProblem} (h : w.opened written p = .error problem)
    (text : String) : w.kept written p text = written := by
  simp only [World.kept, h]

theorem write_eq (h : s.written = written) (w : World) (p : Path) (text : String) :
    write w p text s =
      (match w.writeFault? written p text with
        | none => .ok ()
        | some problem => .error ⟨problem, p⟩,
      { s with written := w.kept written p text }) := by
  subst h
  have hopen : openFile w s p = w.opened s.written p := rfl
  unfold World.writeFault? World.kept
  rw [write, hopen]
  cases w.opened s.written p with
  | error problem => rfl
  | ok room =>
    dsimp only
    cases room.fault? text <;> rfl

theorem yields_failIf (f : Option Uncaught) :
    (failIf f).Yields (match f with | none => .ok () | some f => .error (.uncaught f)) := by
  cases f with
  | none => exact yields_pure ()
  | some f => exact yields_stop _

/-! ### The program in its place -/

def savedMessage (p : Path) : String := "Zapisano program: [bold]" ++ p.text ++ "[/bold]"

def World.place (w : World) (o : ConvertOptions) (program : String) (s : Session) : Session :=
  match o.output.bind Path.ofText? with
  | some p => { s with written := w.kept s.written p program }
  | none =>
    if o.run then { s with temporary := w.temporarySink.toOption.map (·.taken program) }
    else { s with stdout := s.stdout ++ (w.stdout.map (·.taken program)).getD "" }

def World.files (w : World) (o : ConvertOptions) (program : String) : List (Path × String) :=
  match o.output.bind Path.ofText? with
  | some p => w.kept [] p program
  | none => []

theorem place_written (h : s.written = []) :
    (w.place o program s).written = w.files o program := by
  unfold World.place World.files
  cases o.output.bind Path.ofText? with
  | some p => simp [h]
  | none => cases o.run <;> simp [h]

theorem place_memory : (w.place o program s).stats.ilaspMemory = s.stats.ilaspMemory := by
  unfold World.place
  split
  · rfl
  · split <;> rfl

theorem Session.Keeps.place (h : s.Keeps s') :
    (w.place o program s).Keeps (w.place o program s') := by
  obtain ⟨hstdout, hwritten, htemporary, hcalls, hmemory⟩ := h
  unfold World.place
  cases o.output.bind Path.ofText? with
  | some p => exact ⟨hstdout, by rw [hwritten], htemporary, hcalls, hmemory⟩
  | none =>
    cases o.run with
    | true => exact ⟨hstdout, hwritten, rfl, hcalls, hmemory⟩
    | false => exact ⟨congrArg (· ++ _) hstdout, hwritten, htemporary, hcalls, hmemory⟩

structure World.Saves (w : World) (o : ConvertOptions) (program : String) : Prop where
  file : ∀ p ∈ o.output.bind Path.ofText?, w.writeFault? [] p program = none
  message : ∀ p ∈ o.output.bind Path.ofText?, WellFormed (savedMessage p)
  stream : o.output.bind Path.ofText? = none → w.streamFault? o program = none

/-- There is to be a file for the program, and it cannot be written. -/
inductive World.CannotSave (w : World) (o : ConvertOptions) (program : String) : Prop
  | intro {p : Path} {problem : FileProblem} (hpath : o.output.bind Path.ofText? = some p)
      (hwrite : w.writeFault? [] p program = some problem) : CannotSave w o program

/-- The program is written to a file whose name cannot be printed, or gets to none of its other
places. -/
inductive World.Misplaces (w : World) (o : ConvertOptions) (program : String) : Uncaught → Prop
  | unsaid {p : Path} {f : Markup.Fault} (hpath : o.output.bind Path.ofText? = some p)
      (hwrite : w.writeFault? [] p program = none) (hmessage : plain (savedMessage p) = .error f) :
      Misplaces w o program (.markup f)
  | stream {f : Uncaught} (hpath : o.output.bind Path.ofText? = none)
      (hstream : w.streamFault? o program = some f) : Misplaces w o program f

theorem putProgram_of_none (w : World) (hpath : o.output.bind Path.ofText? = none)
    (program : String) (s : Session) :
    ∃ s', (w.place o program s).Keeps s' ∧
      putProgram w o program s =
        (match w.streamFault? o program with
          | none => .ok ()
          | some f => .error (.uncaught f), s') := by
  unfold putProgram World.place World.streamFault?
  rw [hpath]
  cases o.run with
  | true => exact yields_failIf _ _
  | false => exact yields_failIf _ _

theorem putProgram_of_saves (h : w.Saves o program) (hs : s.written = []) :
    ∃ s', (w.place o program s).Keeps s' ∧ putProgram w o program s = (.ok (), s') := by
  cases hpath : o.output.bind Path.ofText? with
  | some p =>
    simp only [putProgram, World.place, hpath, saveProgram, write_eq hs, h.file p hpath, hs]
    exact yields_say (h.message p hpath) _
  | none => simpa only [h.stream hpath] using putProgram_of_none w hpath program s

theorem putProgram_of_misplaces (h : w.Misplaces o program f) (hs : s.written = []) :
    ∃ s', (w.place o program s).Keeps s' ∧
      putProgram w o program s = (.error (.uncaught f), s') := by
  cases h with
  | unsaid hpath hwrite hmessage =>
    simp only [putProgram, World.place, hpath, saveProgram, write_eq hs, hwrite, hs]
    exact yields_say_error hmessage _
  | stream hpath hstream =>
    simpa only [hstream] using putProgram_of_none w hpath program s

theorem putProgram_of_cannotSave (h : w.CannotSave o program) (hs : s.written = []) :
    ∃ s', (w.place o program s).Keeps s' ∧ putProgram w o program s = (.error (.exit 1), s') := by
  obtain ⟨hpath, hwrite⟩ := h
  simp only [putProgram, World.place, hpath, saveProgram, write_eq hs, hwrite, hs]
  exact yields_say_exit (wellFormed_saveFailure _) _

theorem saves_cases (w : World) (o : ConvertOptions) (program : String) :
    w.Saves o program ∨ (∃ f, w.Misplaces o program f) ∨ w.CannotSave o program := by
  cases hpath : o.output.bind Path.ofText? with
  | none =>
    cases hstream : w.streamFault? o program with
    | none => exact .inl ⟨by simp [hpath], by simp [hpath], fun _ => hstream⟩
    | some f => exact .inr (.inl ⟨f, .stream hpath hstream⟩)
  | some p =>
    cases hwrite : w.writeFault? [] p program with
    | some problem => exact .inr (.inr ⟨hpath, hwrite⟩)
    | none =>
      cases hmessage : plain (savedMessage p) with
      | error f => exact .inr (.inl ⟨_, .unsaid hpath hwrite hmessage⟩)
      | ok text =>
        exact .inl ⟨by simp [hpath, hwrite], by simpa [hpath] using ⟨text, hmessage⟩,
          by simp [hpath]⟩

/-! ### The arguments for ILASP -/

def ConvertOptions.HasTexts (o : ConvertOptions) : Prop := ∀ args ∈ o.ilaspArgs, .none ∉ args

def ConvertOptions.arguments (o : ConvertOptions) (settings : Settings) : List String :=
  match o.ilaspArgs with
  | .none => settings.ilaspArgs
  | some args => args.filterMap id

theorem mapM_id_eq_none_iff : args.mapM id = none ↔ none ∈ args := by
  induction args with
  | nil => simp
  | cons arg args ih =>
    rw [List.mapM_cons, List.mem_cons, ← ih]
    cases arg with
    | none => simp
    | some text => cases args.mapM id <;> simp

theorem eq_filterMap_of_mapM_id {texts : List String} (h : args.mapM id = some texts) :
    texts = args.filterMap id := by
  induction args generalizing texts with
  | nil => cases h; rfl
  | cons arg args ih =>
    rw [List.mapM_cons] at h
    cases arg with
    | none => cases h
    | some text =>
      cases hrest : args.mapM id with
      | none => simp [hrest] at h
      | some rest =>
        simp only [hrest, id] at h
        cases h
        simp [ih hrest]

theorem yields_ilaspArguments (h : o.HasTexts) (settings : Settings) :
    (ilaspArguments o settings).Yields (.ok (o.arguments settings)) := by
  unfold ilaspArguments ConvertOptions.arguments
  cases hargs : o.ilaspArgs with
  | none => exact yields_pure _
  | some args =>
    cases htexts : args.mapM id with
    | none => exact absurd (mapM_id_eq_none_iff.1 htexts) (h args hargs)
    | some texts =>
      simp only [htexts, eq_filterMap_of_mapM_id htexts]
      exact yields_pure _

theorem yields_ilaspArguments_of_not_hasTexts (h : ¬ o.HasTexts) (settings : Settings) :
    (ilaspArguments o settings).Yields (.error (.uncaught .missingText)) := by
  simp only [ConvertOptions.HasTexts, Classical.not_forall, Classical.not_not] at h
  obtain ⟨args, hargs, hnone⟩ := h
  simp only [ilaspArguments, Option.mem_def.1 hargs, mapM_id_eq_none_iff.2 hnone]
  exact yields_stop _

theorem yields_sayWarnings (warnings : List ArgWarning) :
    (sayWarnings warnings).Yields (.ok ()) := by
  induction warnings with
  | nil => exact yields_pure ()
  | cons warning warnings ih => exact (yields_say (wellFormed_warning _)).bind ih

/-! ### Running ILASP -/

def ConvertOptions.binary (o : ConvertOptions) (settings : Settings) : String :=
  (nonEmpty? o.ilasp).getD settings.ilasp

def runningMessage (binary : String) : String :=
  "[dim]Uruchamianie ILASP (" ++ binary ++ ")...[/dim]"

def runCall (w : World) (o : ConvertOptions) (call : Call) : Step Unit := do
  let answer ← (callIlasp w o call).andAlways fun s => { s with temporary := none }
  finishSolve w
  output w answer

def ConvertOptions.ilaspCall (o : ConvertOptions) (settings : Settings) (program : String) : Call :=
  ⟨o.binary settings, o.arguments settings, programFile o, program⟩

/-- ILASP cannot be called: an argument has no text, or the name of ILASP cannot be printed. -/
inductive ConvertOptions.CannotCall (o : ConvertOptions) (settings : Settings) : Uncaught → Prop
  | argument (htexts : ¬ o.HasTexts) : CannotCall o settings .missingText
  | binary {f : Markup.Fault} (htexts : o.HasTexts)
      (hmessage : plain (runningMessage (o.binary settings)) = .error f) :
      CannotCall o settings (.markup f)

theorem runIlasp_comesTo (w : World) (htexts : o.HasTexts)
    (hmessage : WellFormed (runningMessage (o.binary settings))) (program : String) :
    (runIlasp w o settings program).ComesTo (runCall w o (o.ilaspCall settings program)) :=
  (yields_ilaspArguments htexts settings).comesTo ((yields_sayWarnings _).comesTo
    ((yields_say hmessage).comesTo (.refl _)))

theorem yields_runIlasp_of_cannotCall (h : o.CannotCall settings f) (program : String) :
    (runIlasp w o settings program).Yields (.error (.uncaught f)) := by
  cases h with
  | argument htexts => exact (yields_ilaspArguments_of_not_hasTexts htexts _).bind_error _
  | binary htexts hmessage =>
    exact (yields_ilaspArguments htexts settings).bind ((yields_sayWarnings _).bind
      ((yields_say_error hmessage).bind_error _))

def World.recorded (w : World) (binary : String) (stats : Statistics) : Statistics :=
  match ilaspRun binary w.process with
  | .ok run =>
    if w.interrupt = some .running then stats
    else
      { stats with
        ilaspCpu := run.cpu.or stats.ilaspCpu
        ilaspMemory := (run.memory.map PeakMemory.bytes).or stats.ilaspMemory }
  | .error _ => stats

theorem recorded_of_interrupt (h : w.interrupt = some .running) (binary : String)
    (stats : Statistics) : w.recorded binary stats = stats := by
  simp only [World.recorded, if_pos h]
  split <;> rfl

theorem recorded_of_error {binary : String} {e : Utf8Fault}
    (h : ilaspRun binary w.process = .error e) (stats : Statistics) :
    w.recorded binary stats = stats := by
  simp only [World.recorded, h]

def World.ran (w : World) (call : Call) (s : Session) : Session :=
  { s with calls := s.calls ++ [call], stats := w.recorded call.binary s.stats }

def World.called (w : World) (call : Call) (s : Session) : Session :=
  { w.ran call s with temporary := none }

/-- How a command ends when ILASP gives no answer. -/
inductive World.GivesNone (w : World) (binary : String) : Ending → Prop
  | interrupted (h : w.interrupt = some .running) : GivesNone w binary .interrupted
  | undecodable {e : Utf8Fault} (hquiet : w.interrupt ≠ some .running)
      (h : ilaspRun binary w.process = .error e) : GivesNone w binary (.uncaught (.decoding e))
  | failed {run : IlaspRun} {fault : IlaspFault} (hquiet : w.interrupt ≠ some .running)
      (h : ilaspRun binary w.process = .ok run) (hfault : run.result = .error fault) :
      GivesNone w binary (.exit 1)

/-- ILASP ends well, with this answer. -/
structure World.Gives (w : World) (answer : String) : Prop where
  quiet : w.interrupt ≠ some .running
  finished : ∃ stderr elapsed memory, w.process = .finished 0 answer stderr elapsed memory

theorem gives_cases (w : World) (binary : String) :
    (∃ answer, w.Gives answer) ∨ ∃ e, w.GivesNone binary e := by
  by_cases hquiet : w.interrupt = some .running
  · exact .inr ⟨_, .interrupted hquiet⟩
  cases hprocess : w.process with
  | notStarted reason => exact .inr ⟨_, .failed hquiet (by rw [hprocess]; rfl) rfl⟩
  | undecodable e => exact .inr ⟨_, .undecodable hquiet (by rw [hprocess]; rfl)⟩
  | finished code answer stderr elapsed memory =>
    by_cases hcode : code = 0
    · subst hcode
      exact .inl ⟨answer, hquiet, stderr, elapsed, memory, hprocess⟩
    · have hexited : (if code = 0 then Except.ok answer else .error (.exited code stderr)) =
          .error (IlaspFault.exited code stderr) := if_neg hcode
      exact .inr ⟨_, .failed hquiet (by rw [hprocess]; rfl) hexited⟩

theorem World.Gives.unique {answer' : String} (h : w.Gives answer) (h' : w.Gives answer') :
    answer = answer' := by
  obtain ⟨stderr, elapsed, memory, hfinished⟩ := h.finished
  obtain ⟨stderr', elapsed', memory', hfinished'⟩ := h'.finished
  cases hfinished.symm.trans hfinished'
  rfl

theorem World.Gives.not_givesNone {binary : String} {e : Ending} (h : w.Gives answer) :
    ¬ w.GivesNone binary e := by
  obtain ⟨hquiet, stderr, elapsed, memory, hfinished⟩ := h
  intro hnone
  cases hnone with
  | interrupted hinterrupt => exact hquiet hinterrupt
  | undecodable _ hrun =>
    rw [hfinished] at hrun
    cases hrun
  | failed _ hrun hfault =>
    rw [hfinished] at hrun
    cases hrun
    cases hfault

theorem yields_failIlasp (f : IlaspFault) : (failIlasp f : Step α).Yields (.error (.exit 1)) := by
  refine (yields_say (wellFormed_report _)).bind ?_
  by_cases hstderr : f.stderr = ""
  · simp only [hstderr, if_true]
    exact yields_stop _
  · simp only [hstderr, if_false]
    exact (yields_printLines _).bind (yields_stop _)

def World.keepAnswer (w : World) (o : ConvertOptions) (answer : String) (s : Session) : Session :=
  match o.ilaspOut.bind Path.ofText? with
  | some p => { s with written := w.kept s.written p answer }
  | none => s

def World.answerFault? (w : World) (o : ConvertOptions) (written : List (Path × String))
    (answer : String) : Option FileFault :=
  (o.ilaspOut.bind Path.ofText?).bind fun p =>
    (w.writeFault? written p answer).map fun problem => ⟨problem, p⟩

theorem saveAnswer_eq (h : s.written = written) (w : World) (o : ConvertOptions)
    (answer : String) :
    saveAnswer w (o.ilaspOut.bind Path.ofText?) answer s =
      (match w.answerFault? o written answer with
        | none => .ok ()
        | some e => .error (.uncaught (.file e)), w.keepAnswer o answer s) := by
  unfold World.keepAnswer World.answerFault?
  cases o.ilaspOut.bind Path.ofText? with
  | none => rfl
  | some p =>
    simp only [saveAnswer, write_eq h, h, Option.bind_some]
    cases w.writeFault? written p answer <;> rfl

def World.showAnswer (w : World) (o : ConvertOptions) (answer : String) (s : Session) : Session :=
  { w.keepAnswer o answer s with stdout := s.stdout ++ (w.stdout.map (·.taken answer)).getD "" }

theorem Session.Keeps.removeTemporary (h : s.Keeps s') :
    Session.Keeps { s with temporary := none } { s' with temporary := none } :=
  ⟨h.stdout, h.written, rfl, h.calls, h.memory⟩

theorem callIlasp_of_quiet (hquiet : w.interrupt ≠ some .running) {run : IlaspRun}
    (hrun : ilaspRun call.binary w.process = .ok run) (o : ConvertOptions) (s : Session) :
    callIlasp w o call s =
      (match run.result with
        | .error f => failIlasp f
        | .ok answer => do
          saveAnswer w (o.ilaspOut.bind Path.ofText?) answer
          pure answer : Step String) (w.ran call s) := by
  have hrecorded : w.recorded call.binary s.stats =
      { s.stats with
        ilaspCpu := run.cpu.or s.stats.ilaspCpu
        ilaspMemory := (run.memory.map PeakMemory.bytes).or s.stats.ilaspMemory } := by
    simp only [World.recorded, hrun, if_neg hquiet]
  have hstep : interruptible w .running = pure () := by
    rw [interruptible, if_neg hquiet]
  unfold callIlasp World.ran
  rw [hstep, hrun, hrecorded]
  rfl

theorem runCall_of_givesNone (o : ConvertOptions) (call : Call) {e : Ending}
    (h : w.GivesNone call.binary e) (s : Session) :
    ∃ s', (w.called call s).Keeps s' ∧ runCall w o call s = (.error e, s') := by
  suffices hcall : ∃ s', (w.ran call s).Keeps s' ∧ callIlasp w o call s = (.error e, s') by
    obtain ⟨s', hkeeps, hcall⟩ := hcall
    refine ⟨_, hkeeps.removeTemporary, bind_of_error ?_ _⟩
    simp only [andAlways, hcall]
  cases h with
  | interrupted hinterrupt =>
    have hstep : interruptible w .running = stop .interrupted := by
      rw [interruptible, if_pos hinterrupt]
    refine ⟨w.ran call s, .refl _, ?_⟩
    rw [World.ran, recorded_of_interrupt hinterrupt, callIlasp, hstep]
    rfl
  | undecodable hquiet hrun =>
    have hstep : interruptible w .running = pure () := by
      rw [interruptible, if_neg hquiet]
    refine ⟨w.ran call s, .refl _, ?_⟩
    rw [World.ran, recorded_of_error hrun, callIlasp, hstep, hrun]
    rfl
  | failed hquiet hrun hfault =>
    rw [callIlasp_of_quiet hquiet hrun, hfault]
    exact yields_failIlasp _ _

theorem callIlasp_of_gives (h : w.Gives answer) (o : ConvertOptions) (s : Session) :
    callIlasp w o call s =
      (do
        saveAnswer w (o.ilaspOut.bind Path.ofText?) answer
        pure answer : Step String) (w.ran call s) := by
  obtain ⟨hquiet, stderr, elapsed, memory, hfinished⟩ := h
  exact callIlasp_of_quiet hquiet (by rw [hfinished]; rfl) o s

theorem runCall_of_answerFault (h : w.Gives answer) (hs : s.written = written) {e : FileFault}
    (hfault : w.answerFault? o written answer = some e) :
    runCall w o call s =
      (.error (.uncaught (.file e)), w.keepAnswer o answer (w.called call s)) := by
  have hsave := saveAnswer_eq (s := w.ran call s) hs w o answer
  rw [hfault] at hsave
  have hkeep : w.keepAnswer o answer (w.called call s) =
      { w.keepAnswer o answer (w.ran call s) with temporary := none } := by
    unfold World.keepAnswer
    split <;> rfl
  refine bind_of_error ?_ _
  rw [andAlways, callIlasp_of_gives h, bind_of_error hsave, hkeep]

theorem runCall_of_gives (call : Call) (h : w.Gives answer) (hs : s.written = written)
    (hfault : w.answerFault? o written answer = none) :
    ∃ s', (w.showAnswer o answer (w.called call s)).Keeps s' ∧
      runCall w o call s =
        (match outputFault? w answer with
          | none => .ok ()
          | some f => .error (.uncaught f), s') := by
  have hsave := saveAnswer_eq (s := w.ran call s) hs w o answer
  rw [hfault] at hsave
  have hcall : (callIlasp w o call).andAlways (fun s => { s with temporary := none }) s =
      (.ok answer, { w.keepAnswer o answer (w.ran call s) with temporary := none }) := by
    rw [andAlways, callIlasp_of_gives h, bind_of_ok hsave]
    rfl
  have houtput := yields_failIf (outputFault? w answer)
    { w.keepAnswer o answer (w.ran call s) with
      temporary := none
      stats := (w.keepAnswer o answer (w.ran call s)).stats.finishSolve w.clock
        ((w.keepAnswer o answer (w.ran call s)).stats.ilaspCpu.getD 0)
      stdout := (w.keepAnswer o answer (w.ran call s)).stdout ++
        (w.stdout.map (·.taken answer)).getD "" }
  obtain ⟨s', hkeeps, heq⟩ := houtput
  refine ⟨s', .trans ?_ hkeeps, (bind_of_ok hcall _).trans heq⟩
  unfold World.showAnswer World.keepAnswer
  cases o.ilaspOut.bind Path.ofText? <;> exact ⟨rfl, rfl, rfl, rfl, rfl⟩

/-! ### Memory -/

def Overflows (memory : Option Int) : Prop := Statistics.memoryText? memory = none

theorem not_overflows_peak (memory : Option PeakMemory) :
    ¬ Overflows (memory.map PeakMemory.bytes) := by
  cases memory with
  | none => simp [Overflows, Statistics.memoryText?]
  | some n => exact ByteSize.text?_ne_none n.bounded

theorem not_overflows_called (h : s.stats.ilaspMemory = none) :
    ¬ Overflows (w.called call s).stats.ilaspMemory := by
  have hnone : ¬ Overflows none := not_overflows_peak none
  simp only [World.called, World.ran, World.recorded]
  split
  · next run hrun =>
    split
    · rwa [h]
    · simpa [h] using not_overflows_peak run.memory
  · rwa [h]

end AnswerSetLearning
