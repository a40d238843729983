import AnswerSetLearning.Command.Session
import AnswerSetLearning.Induction.Pipeline
import AnswerSetLearning.Reader.Parse

namespace AnswerSetLearning

inductive Failure
  | parse (f : ParseFault)
  | invalid (e : InvalidLiteral)
  | solver (f : Solver.Fault)
  | noModel
  | conflict (c : Conflict)
  | render (detail : String)
  | ilasp (f : IlaspFault)
  deriving DecidableEq

namespace Failure

def code : Failure → String
  | parse _ => "E_PARSE"
  | invalid _ => "E_INVALID_LITERAL"
  | solver _ => "E_SOLVER"
  | noModel => "E_NO_MODEL"
  | conflict ⟨.i, _, _⟩ => "E_INCOMPATIBLE_I"
  | conflict ⟨.ii, _, _⟩ => "E_INCOMPATIBLE_II"
  | conflict ⟨.iii, _, _⟩ => "E_INCOMPATIBLE_III"
  | render _ => "E_RENDER"
  | ilasp _ => "E_ILASP"

def message : Failure → String
  | parse f => f.message
  | invalid e => e.message
  | solver f => f.message
  | noModel => "Nie znaleziono modelu"
  | conflict c => c.message
  | render detail => "Błąd szablonu: " ++ detail
  | ilasp f => f.message

def ofQuery : Solver.QueryFault → Failure
  | .invalid e => invalid e
  | .solver f => solver f
  | .noModel => noModel

def ofBuild : BuildFault → Failure
  | .query e => ofQuery e
  | .conflict c => conflict c

end Failure

namespace Step

def report (f : Failure) : Step Unit :=
  say ("[red]Błąd[/red] [dim](" ++ f.code ++ ")[/dim]: " ++ Markup.escape f.message)

def fail (f : Failure) : Step α := do
  report f
  stop (.exit 1)

def failReading (message : String) : Step α := do
  say ("[red]Błąd odczytu zadania:[/red] " ++ Markup.escape message)
  stop (.exit 1)

def decodeTask (bytes : List Nat) : Step Task :=
  match decodeText bytes with
  | .error e => failReading e.message
  | .ok text =>
    match parseTask text with
    | .ok t => pure t
    | .error f => fail (.parse f)

def taskFrom (w : World) (read : Except String (List Nat)) : Step Task := do
  interruptible w .reading
  match read with
  | .error message => failReading message
  | .ok bytes => decodeTask bytes

def readTask (w : World) (input : Option String) : Step Task :=
  match input.bind Path.ofText? with
  | none =>
    match w.stdin with
    | .closed => stop (.uncaught .noInput)
    | .failing e => taskFrom w (.error e.message)
    | .bytes bytes => taskFrom w (.ok bytes)
  | some p =>
    match w.node p with
    | .missing => do
      say ("[red]Brak pliku zadania:[/red] " ++ p.text)
      stop (.exit 1)
    | .unreachable e => stop (.uncaught (.file ⟨.system e, p⟩))
    | .directory => taskFrom w (.error (FileFault.message ⟨.isDirectory, p⟩))
    | .unreadable e => taskFrom w (.error (FileFault.message ⟨.system e, p⟩))
    | .file bytes => taskFrom w (.ok bytes)

/-- The step; an interrupt is reported after `before`. -/
def catchInterrupt (x before : Step Unit) : Step Unit := fun s =>
  match x s with
  | (.error .interrupted, s) =>
    (do
      before
      say "[yellow]Przerwano (Ctrl-C).[/yellow]"
      stop (.exit 130) : Step Unit) s
  | r => r

/-- Waits for a result, which is reported afterwards. Only the waiting is ready for an interrupt. -/
def awaitResult (w : World) : Step Unit := do
  catchInterrupt (interruptible w .computing) (pure ())
  interruptible w .reporting

end Step

end AnswerSetLearning
