import AnswerSetLearning.Command.Console
import AnswerSetLearning.Command.Ilasp
import AnswerSetLearning.Command.Settings
import AnswerSetLearning.Command.Statistics
import AnswerSetLearning.Induction.LearningTask

/-!
# Sessions

A command reads files and writes to the console, to files and to its output. It is a function of
the world it starts in: what it reads, what becomes of what it writes and of the process it starts,
and when the user interrupts it, while the task is read or worked on, while ILASP runs, or while
the end is reported.

Left out are failures of the console, of the clock, of memory and of removing the temporary file,
other interrupts and a second one, and names and texts that are not Unicode. What is kept of a text
that does not fit ends with a whole character.
-/

namespace AnswerSetLearning

structure SystemError where
  number : Nat
  text : String
  deriving DecidableEq

def SystemError.message (e : SystemError) : String :=
  "[Errno " ++ Nat.repr e.number ++ "] " ++ e.text

/-- What a path leads to. Nothing is known of what is unreachable; unreadable is a file. -/
inductive Node
  | missing
  | unreachable (e : SystemError)
  | directory
  | unreadable (e : SystemError)
  | file (bytes : List Nat)
  deriving DecidableEq

inductive Input
  | closed
  | failing (e : SystemError)
  | bytes (bytes : List Nat)
  deriving DecidableEq

/-- The room there is for a text: enough, or only for so many characters. -/
inductive Room
  | enough
  | upTo (size : Nat) (e : SystemError)
  deriving DecidableEq

namespace Room

def taken : Room → String → String
  | enough, text => text
  | upTo size _, text => .ofList (text.toList.take size)

def fault? : Room → String → Option SystemError
  | enough, _ => none
  | upTo size e, text => if size < text.length then some e else none

end Room

abbrev Sink := Except SystemError Room

/-- What a template engine makes of a template: a program, a fault of the template, or an exception
of another class. -/
inductive Rendering
  | program (text : String)
  | faulty (detail : String)
  | raised (className : String)
  deriving DecidableEq

inductive Moment
  | reading
  | computing
  | running
  | reporting
  deriving DecidableEq

structure World where
  node : Path → Node
  stdin : Input
  env : Environment
  process : ProcessOutcome
  /-- renders the templates that are beyond the part of their language that is rendered here -/
  engine : LearningTask → String → Rendering
  /-- what becomes of a file in a directory that is there -/
  sink : Path → Sink
  temporarySink : Sink
  /-- the room in the output, unless it is closed -/
  stdout : Option Room
  interrupt : Option Moment
  /-- the memory that the program itself has taken, if that is known -/
  memory : Option PeakMemory
  clock : Time

/-- Why a file cannot be opened, or, for a device, cannot take all of a text. -/
inductive FileProblem
  | missing
  | notDirectory
  | isDirectory
  | system (e : SystemError)
  | device (e : SystemError)
  deriving DecidableEq

structure FileFault where
  problem : FileProblem
  path : Path
  deriving DecidableEq

def FileFault.message (f : FileFault) : String :=
  match f.problem with
  | .missing => "[Errno 2] No such file or directory: " ++ quoted f.path.text
  | .notDirectory => "[Errno 20] Not a directory: " ++ quoted f.path.text
  | .isDirectory => "[Errno 21] Is a directory: " ++ quoted f.path.text
  | .system e => e.message ++ ": " ++ quoted f.path.text
  | .device e => e.message

inductive Uncaught
  | words (e : WordFault)
  | file (e : FileFault)
  | system (e : SystemError)
  | decoding (e : Utf8Fault)
  | markup (e : Markup.Fault)
  | template (className : String)
  | overflow
  | missingText
  | noInput
  | noOutput
  | interrupt
  deriving DecidableEq

inductive Ending
  | exit (code : Nat)
  | interrupted
  | uncaught (e : Uncaught)
  deriving DecidableEq

inductive ProgramFile
  | named (p : Path)
  | temporary
  deriving DecidableEq

structure Call where
  binary : String
  args : List String
  file : ProgramFile
  program : String
  deriving DecidableEq

structure Session where
  stdout : String
  stderr : List String
  written : List (Path × String)
  /-- the text of the temporary program file while there is one -/
  temporary : Option String
  calls : List Call
  stats : Statistics

def Session.start (w : World) : Session := ⟨"", [], [], none, [], .start w.clock⟩

def Step (α : Type) := Session → Except Ending α × Session

namespace Step

protected def pure (a : α) : Step α := fun s => (.ok a, s)

protected def bind (x : Step α) (f : α → Step β) : Step β := fun s =>
  match x s with
  | (.ok a, s) => f a s
  | (.error e, s) => (.error e, s)

instance : Monad Step where
  pure := Step.pure
  bind := Step.bind

def stop (e : Ending) : Step α := fun s => (.error e, s)

def modify (f : Session → Session) : Step Unit := fun s => (.ok (), f s)

def andAlways (x : Step α) (f : Session → Session) : Step α := fun s =>
  let (r, s) := x s
  (r, f s)

def printLines (ls : List String) : Step Unit :=
  modify fun s => { s with stderr := s.stderr ++ ls }

def say (message : String) : Step Unit :=
  match Markup.plain message with
  | .ok text => printLines (Console.showText text)
  | .error e => stop (.uncaught (.markup e))

def failIf : Option Uncaught → Step Unit
  | none => pure ()
  | some f => stop (.uncaught f)

def outputFault? (w : World) (text : String) : Option Uncaught :=
  match w.stdout with
  | none => some .noOutput
  | some room => (room.fault? text).map .system

def output (w : World) (text : String) : Step Unit := do
  modify fun s => { s with stdout := s.stdout ++ (w.stdout.map (·.taken text)).getD "" }
  failIf (outputFault? w text)

def temporaryFault? (w : World) (text : String) : Option Uncaught :=
  match w.temporarySink with
  | .error e => some (.system e)
  | .ok room => (room.fault? text).map .system

def writeTemporary (w : World) (text : String) : Step Unit := do
  modify fun s => { s with temporary := w.temporarySink.toOption.map (·.taken text) }
  failIf (temporaryFault? w text)

def ofExcept (e : ε → Ending) : Except ε α → Step α
  | .ok a => pure a
  | .error x => stop (e x)

def nodeNow (w : World) (s : Session) (p : Path) : Node :=
  if s.written.any (·.1 = p) then .file [] else w.node p

/-- Why a path does not lead any further than to this node. -/
def barrier : Node → Option FileProblem
  | .missing => some .missing
  | .unreachable e => some (.system e)
  | .unreadable _ | .file _ => some .notDirectory
  | .directory => none

def obstacle : Node → Option FileProblem
  | .directory => some .isDirectory
  | .unreachable e => some (.system e)
  | .missing | .unreadable _ | .file _ => none

/-- Opens a file for writing, unless one of its directories is none, something else is in its place,
or the system refuses. -/
def openFile (w : World) (s : Session) (p : Path) : Except FileProblem Room :=
  match (p.ancestors.findSome? fun a => barrier (nodeNow w s a)).or (obstacle (nodeNow w s p)) with
  | some problem => .error problem
  | none => (w.sink p).mapError .system

def write (w : World) (p : Path) (text : String) : Session → Except FileFault Unit × Session :=
  fun s =>
    match openFile w s p with
    | .error problem => (.error ⟨problem, p⟩, s)
    | .ok room =>
      let s := { s with written := s.written.filter (·.1 ≠ p) ++ [(p, room.taken text)] }
      match room.fault? text with
      | none => (.ok (), s)
      | some e => (.error ⟨.device e, p⟩, s)

def interruptible (w : World) (m : Moment) : Step Unit :=
  if w.interrupt = some m then stop .interrupted else pure ()

def endPhase (w : World) (phase : Phase) : Step Unit :=
  modify fun s => { s with stats := s.stats.finishPhase w.clock phase }

def showStatistics (w : World) : Step Unit := fun s =>
  let stats := s.stats.finish
  let s := { s with stats }
  match stats.rows? (w.memory.map PeakMemory.bytes) with
  | none => (.error (.uncaught .overflow), s)
  | some rows =>
    printLines (Console.Table.mk (some "Statystyki") ("MIARA", "WARTOŚĆ") true rows).toLines s

end Step

end AnswerSetLearning
