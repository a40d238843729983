import AnswerSetLearning.Number.Binary64
import AnswerSetLearning.Text.Utf8

namespace AnswerSetLearning

def knownArgs : List String :=
  ["-na", "-ml=2", "--ml=2", "-v", "--quiet", "--version=1", "--version=2", "--version=2i",
    "--version=3", "--version=4"]

inductive ArgWarning
  | unknown (arg : String)
  | noVersion
  deriving DecidableEq

def ArgWarning.message : ArgWarning → String
  | unknown arg =>
    "Argument ILASP '" ++ arg ++ "' może być nieprawidłowy (sprawdź ILASP --help)."
  | noVersion => "Nie podano wersji ILASP; ILASP wymaga --version=[1|2|2i|3|4]."

def startsWith (start s : String) : Bool := start.toList.isPrefixOf s.toList

def isKnownArg (arg : String) : Bool :=
  knownArgs.contains arg || startsWith "-ml=" arg || startsWith "--ml=" arg

def choosesVersion (arg : String) : Bool := startsWith "--version=" arg || arg == "-v"

def checkArgs (args : List String) : List ArgWarning :=
  (args.filter (!isKnownArg ·)).map .unknown ++
    if args.any choosesVersion then [] else [.noVersion]

section Time

/-- The seconds written at the front of a line, when nothing else follows: a numeral, an `s`,
and blanks around them. -/
def secondsAt (cs : List Char) : Option Decimal :=
  let cs := cs.dropWhile isBlank
  let whole := cs.takeWhile isAsciiDigit
  let rest := cs.dropWhile isAsciiDigit
  let (fraction, rest) := match rest with
    | '.' :: cs => (some (cs.takeWhile isAsciiDigit), cs.dropWhile isAsciiDigit)
    | cs => (none, cs)
  if whole.isEmpty || fraction == some [] then none
  else match rest.dropWhile isBlank with
    | 's' :: cs => if cs.all isBlank then some (.ofDigits whole (fraction.getD [])) else none
    | _ => none

/-- The seconds after the first colon that has nothing but seconds after it. -/
def secondsIn : List Char → Option Decimal
  | [] => none
  | c :: cs => if c = ':' then (secondsAt cs).or (secondsIn cs) else secondsIn cs

def containsWord (word : List Char) : List Char → Bool
  | [] => word.isEmpty
  | c :: cs => word.isPrefixOf (c :: cs) || containsWord word cs

/-- The total time that ILASP reports: the first line with `Total` decides. -/
def totalTime (stderr : String) : Option Float :=
  (((lines stderr.toList).find? (containsWord "Total".toList)).bind secondsIn).map Decimal.toFloat

end Time

/-- The bytes that a process has taken. The system counts kibibytes, in 64 bits. -/
structure PeakMemory where
  bytes : Int
  bounded : bytes.natAbs ≤ 1 <<< 73
  deriving DecidableEq

/-- What becomes of a process: it ends, with texts or with bytes that are none, or it cannot be
started. -/
inductive ProcessOutcome
  | finished (returncode : Int) (stdout stderr : String) (elapsed : Float)
      (memory : Option PeakMemory)
  | undecodable (e : Utf8Fault)
  | notStarted (reason : String)

inductive IlaspFault
  | exited (returncode : Int) (stderr : String)
  | notStarted (binary reason : String)
  deriving DecidableEq

namespace IlaspFault

def message : IlaspFault → String
  | exited code _ => "ILASP zakończył się kodem " ++ intText code
  | notStarted binary reason => "Nie można uruchomić ILASP (" ++ binary ++ "): " ++ reason

def returncode : IlaspFault → Option Int
  | exited code _ => some code
  | notStarted .. => none

def stderr : IlaspFault → String
  | exited _ text => text
  | notStarted .. => ""

end IlaspFault

def commandLine (binary : String) (args : List String) (program : String) : List String :=
  binary :: args.map (fun a => .ofList (trimBlanks a.toList)) ++ [program]

structure IlaspRun where
  cpu : Option Float
  memory : Option PeakMemory
  result : Except IlaspFault String

/-- Without a total in its report, the wall time stands for the time ILASP took. -/
def ilaspRun (binary : String) : ProcessOutcome → Except Utf8Fault IlaspRun
  | .notStarted reason => .ok ⟨none, none, .error (.notStarted binary reason)⟩
  | .undecodable e => .error e
  | .finished code stdout stderr elapsed memory =>
    .ok ⟨some ((totalTime stderr).getD elapsed), memory,
      if code = 0 then .ok stdout else .error (.exited code stderr)⟩

end AnswerSetLearning
