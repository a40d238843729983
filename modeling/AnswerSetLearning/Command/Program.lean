import AnswerSetLearning.Command.Check
import AnswerSetLearning.Command.Convert
import AnswerSetLearning.Command.Universe

namespace AnswerSetLearning

def Command.perform (w : World) : Command → Step Unit
  | .convert o => AnswerSetLearning.convert w o
  | .check input => AnswerSetLearning.check w input
  | .universe input => showUniverse w input

def Command.input? : Command → Option Path
  | .convert o => o.input.bind Path.ofText?
  | .check input => input.bind Path.ofText?
  | .universe input => input.bind Path.ofText?

def Command.paths (env : Environment) (c : Command) : List Path :=
  let files := c.input?.toList ++
    match c with
    | .convert o =>
      [o.output, o.template, o.ilaspOut, env "ILNLP_TEMPLATE"].filterMap fun s =>
        s.bind Path.ofText?
    | _ => []
  files.flatMap fun p => p :: p.ancestors

/-- How the program ends: with an exit code, or with a failure that it does not report. -/
inductive Exit
  | code (n : Nat)
  | uncaught (e : Uncaught)
  deriving DecidableEq

def Exit.ofResult : Except Ending Unit → Exit
  | .ok () => code 0
  | .error (.exit n) => code n
  | .error .interrupted => uncaught .interrupt
  | .error (.uncaught e) => uncaught e

def runCommand (w : World) (c : Command) : Exit × Session :=
  let (result, session) := c.perform w (.start w)
  (.ofResult result, session)

def versionText : String := "ilnlp 0.1.0\n"

def usageText : String :=
  unlines
    ["usage: ilnlp [-h] [--version] <komenda> ...",
      "",
      "komendy:",
      "  convert [INPUT] [-o OUT] [--template T] [-r] [--ilasp BIN] [--ilasp-arg ARG]",
      "          [--ilasp-out PATH] [--stats]",
      "  check [INPUT]",
      "  universe [INPUT]"]

def Usage.answer : Usage → Nat × String
  | help => (0, usageText)
  | version => (0, versionText)
  | wrong => (2, "")

end AnswerSetLearning
