import AnswerSetLearning.Command.Program

/-!
# The entry of the program

Collects what a command needs of the world, runs the command and carries out what it did. No process
is started here, and no template engine: a command that asks for one of them is told that there is
none.
-/

namespace AnswerSetLearning

partial def readAll (stream : IO.FS.Stream) (bytes : ByteArray) : IO ByteArray := do
  let more ← stream.read 65536
  if more.isEmpty then return bytes else readAll stream (bytes ++ more)

def readNode (p : Path) : IO Node := do
  try
    let bytes ← IO.FS.readBinFile p.text
    return .file (bytes.toList.map UInt8.toNat)
  catch
    | .inappropriateType none _ _ => return .directory
    | .permissionDenied _ number text => return .unreadable ⟨number.toNat, text⟩
    | _ => return .missing

def readInput (c : Command) : IO Input := do
  if c.input?.isSome then return .closed
  try
    let bytes ← readAll (← IO.getStdin) .empty
    return .bytes (bytes.toList.map UInt8.toNat)
  catch e => return .failing ⟨5, e.toString⟩

def variableNames : List String := ["ILNLP_ILASP", "ILNLP_ILASP_ARGS", "ILNLP_TEMPLATE"]

def readEnvironment : IO Environment := do
  let values ← variableNames.mapM fun name => do return (name, ← IO.getEnv name)
  return fun name => (values.lookup name).join

def readWorld (c : Command) : IO World := do
  let env ← readEnvironment
  let nodes ← (c.paths env).mapM fun p => do return (p, ← readNode p)
  return {
    node := fun p => (nodes.lookup p).getD .missing
    stdin := ← readInput c
    env := env
    process := .notStarted "no process is started"
    engine := fun _ _ => .faulty "there is no template engine"
    sink := fun _ => .ok .enough
    temporarySink := .ok .enough
    stdout := some .enough
    interrupt := none
    memory := none
    clock := .zero }

def Uncaught.message : Uncaught → String
  | .words e => e.message
  | .file e => e.message
  | .system e => e.message
  | .decoding e => e.message
  | .markup e => "no open tag for [" ++ e.tag ++ "]"
  | .template className => "the template raises a " ++ className
  | .overflow => "the memory is too large to be printed"
  | .missingText => "an argument for ILASP has no text"
  | .noInput => "the standard input is closed"
  | .noOutput => "the standard output is closed"
  | .interrupt => "interrupted"

def finish (exit : Exit) (s : Session) : IO UInt32 := do
  for (p, text) in s.written do
    IO.FS.writeFile p.text text
  IO.print s.stdout
  for line in s.stderr do
    IO.eprintln line
  match exit with
  | .code n => return n.toUInt32
  | .uncaught e => do
    IO.eprintln e.message
    return 1

end AnswerSetLearning

open AnswerSetLearning in
def main (args : List String) : IO UInt32 := do
  match readArguments args with
  | .error usage => do
    let (code, text) := usage.answer
    IO.print text
    if code ≠ 0 then IO.eprint usageText
    return code.toUInt32
  | .ok command => do
    let (exit, session) := runCommand (← readWorld command) command
    finish exit session
