import AnswerSetLearning.Command.Arguments
import AnswerSetLearning.Command.Report
import AnswerSetLearning.Template.Render

namespace AnswerSetLearning

open Step

def readTemplate (w : World) : Option Path → Step (Option String)
  | none => pure none
  | some p =>
    match w.node p with
    | .missing => do
      say ("[red]" ++ Markup.escape ("Brak pliku szablonu: " ++ p.text) ++ "[/red]")
      stop (.exit 1)
    | .unreachable e | .unreadable e => stop (.uncaught (.file ⟨.system e, p⟩))
    | .directory => stop (.uncaught (.file ⟨.isDirectory, p⟩))
    | .file bytes =>
      (ofExcept (fun e => .uncaught (.decoding e)) (decodeText bytes)).bind fun text =>
        pure (some text)

def recordUniverse (stats : Option UniverseStats) : Step Unit :=
  modify fun s => { s with stats := { s.stats with universeStats := stats } }

def buildLearningTask (w : World) (t : Task) : Step LearningTask := do
  interruptible w .computing
  let built := buildTask t
  recordUniverse built.stats
  match built.result with
  | .ok task => pure task
  | .error e => fail (.ofBuild e)

def rendering (w : World) (task : LearningTask) (template : Option String) : Rendering :=
  match Template.render task template with
  | .ok program => .program program
  | .error (.fault f) => .faulty f.detail
  | .error .wrongKind => .raised "TypeError"
  | .error .beyond => w.engine task (template.getD Template.defaultTemplate)

def renderProgram (w : World) (task : LearningTask) (template : Option String) : Step String :=
  match rendering w task template with
  | .program program => pure program
  | .faulty detail => fail (.render detail)
  | .raised className => stop (.uncaught (.template className))

def saveProgram (w : World) (p : Path) (program : String) : Step Unit := fun s =>
  match write w p program s with
  | (.ok (), s) => say ("Zapisano program: [bold]" ++ p.text ++ "[/bold]") s
  | (.error e, s) =>
    (do
      say ("[red]Błąd zapisu programu:[/red] " ++ Markup.escape e.message)
      stop (.exit 1) : Step Unit) s

/-- Puts the program where it belongs: to the file of the user, into a temporary file for ILASP,
or to the output. -/
def putProgram (w : World) (o : ConvertOptions) (program : String) : Step Unit :=
  match o.output.bind Path.ofText? with
  | some p => saveProgram w p program
  | none =>
    if o.run then writeTemporary w program else output w program

def programFile (o : ConvertOptions) : ProgramFile :=
  match o.output.bind Path.ofText? with
  | some p => .named p
  | none => .temporary

def sayWarnings : List ArgWarning → Step Unit
  | [] => pure ()
  | warning :: rest => do
    say ("[yellow]Ostrzeżenie:[/yellow] " ++ Markup.escape warning.message)
    sayWarnings rest

def failIlasp (f : IlaspFault) : Step α := do
  report (.ilasp f)
  if f.stderr = "" then pure () else printLines (Console.showText f.stderr)
  stop (.exit 1)

def recordRun (run : IlaspRun) : Step Unit :=
  modify fun s => { s with
    stats := { s.stats with
      ilaspCpu := run.cpu.or s.stats.ilaspCpu
      ilaspMemory := (run.memory.map PeakMemory.bytes).or s.stats.ilaspMemory } }

def saveAnswer (w : World) (path : Option Path) (answer : String) : Step Unit :=
  match path with
  | none => pure ()
  | some p => fun s =>
    match write w p answer s with
    | (.ok (), s) => (.ok (), s)
    | (.error e, s) => (.error (.uncaught (.file e)), s)

def callIlasp (w : World) (o : ConvertOptions) (call : Call) : Step String := do
  modify fun s => { s with calls := s.calls ++ [call] }
  interruptible w .running
  let run ← ofExcept (fun e => .uncaught (.decoding e)) (ilaspRun call.binary w.process)
  recordRun run
  match run.result with
  | .error f => failIlasp f
  | .ok answer => do
    saveAnswer w (o.ilaspOut.bind Path.ofText?) answer
    pure answer

def nonEmpty? (s : Option String) : Option String := s.filter (· ≠ "")

def finishSolve (w : World) : Step Unit :=
  modify fun s => { s with stats := s.stats.finishSolve w.clock (s.stats.ilaspCpu.getD 0) }

def ilaspArguments (o : ConvertOptions) (settings : Settings) : Step (List String) :=
  match o.ilaspArgs with
  | none => pure settings.ilaspArgs
  | some args =>
    match args.mapM id with
    | some args => pure args
    | none => stop (.uncaught .missingText)

/-- Runs ILASP; the temporary program file is removed after it. -/
def runIlasp (w : World) (o : ConvertOptions) (settings : Settings) (program : String) :
    Step Unit := do
  let args ← ilaspArguments o settings
  sayWarnings (checkArgs args)
  let binary := (nonEmpty? o.ilasp).getD settings.ilasp
  say ("[dim]Uruchamianie ILASP (" ++ binary ++ ")...[/dim]")
  let answer ← (callIlasp w o ⟨binary, args, programFile o, program⟩).andAlways
    fun s => { s with temporary := none }
  finishSolve w
  output w answer

def convertTask (w : World) (o : ConvertOptions) : Step Unit := do
  let settings ← ofExcept (fun e => .uncaught (.words e)) (readSettings w.env)
  let template ← readTemplate w ((o.template.bind Path.ofText?).or settings.template)
  say "[dim]Parsowanie...[/dim]"
  let t ← readTask w o.input
  endPhase w .parse
  say "[dim]Konwersja...[/dim]"
  let task ← buildLearningTask w t
  let program ← renderProgram w task template
  endPhase w .convert
  say ("Przykłady: [green]" ++ Nat.repr task.positives.length ++ " pozytywnych[/green], [red]" ++
    Nat.repr task.negatives.length ++ " negatywnych[/red]")
  putProgram w o program
  endPhase w .output
  if o.run then runIlasp w o settings program else pure ()

/-- The statistics are printed at the end when asked for, and after an interrupt. -/
def convert (w : World) (o : ConvertOptions) : Step Unit := do
  catchInterrupt (convertTask w o) (showStatistics w)
  if o.stats then do
    interruptible w .reporting
    showStatistics w

end AnswerSetLearning
