import AnswerSetLearning.Induction.Universe
import AnswerSetLearning.Number.Binary64

namespace AnswerSetLearning

structure Time where
  cpu : Float
  wall : Float

namespace Time

def zero : Time := ⟨0, 0⟩

def sub (s t : Time) : Time := ⟨s.cpu - t.cpu, s.wall - t.wall⟩

end Time

inductive ByteSize
  | count (n : Int)
  | quotient (x : Float)

namespace ByteSize

def isSmall : ByteSize → Bool
  | count n => n < 1024
  | quotient x => x < 1024

def per (den : Nat) : ByteSize → Option Float
  | count n => intQuotient? n den
  | quotient x => some (x / Float.ofNat den)

def print? (places : Nat) (s : ByteSize) : Option String := (s.per 1).map (fixedFloat places)

/-- The size in the first of the units in which it is below 1024, or in the last one. -/
def inUnits (places : Nat) : ByteSize → List String → Option String
  | _, [] => none
  | s, [unit] => (s.print? places).map (· ++ " " ++ unit)
  | s, unit :: units =>
    if s.isSmall then (s.print? places).map (· ++ " " ++ unit)
    else (s.per 1024).bind fun x => inUnits 1 (quotient x) units

def text? (s : ByteSize) : Option String := s.inUnits 0 ["B", "KiB", "MiB", "GiB"]

end ByteSize

structure Statistics where
  parse : Option Time
  convert : Option Time
  solve : Option Time
  output : Option Time
  total : Option Time
  ilaspCpu : Option Float
  ilaspMemory : Option Int
  universeStats : Option UniverseStats
  /-- the clock when the last phase ended -/
  last : Time

inductive Phase
  | parse
  | convert
  | output
  deriving DecidableEq

namespace Statistics

def start (clock : Time) : Statistics :=
  ⟨none, none, none, none, none, none, none, none, clock⟩

def finishPhase (s : Statistics) (clock : Time) (phase : Phase) : Statistics :=
  let time := some (clock.sub s.last)
  let s := { s with last := clock }
  match phase with
  | .parse => { s with parse := time }
  | .convert => { s with convert := time }
  | .output => { s with output := time }

def phaseTime (s : Statistics) : Phase → Option Time
  | .parse => s.parse
  | .convert => s.convert
  | .output => s.output

/-- Ends the run of the learner, which counts its own time. -/
def finishSolve (s : Statistics) (clock : Time) (seconds : Float) : Statistics :=
  { s with solve := some ⟨seconds, 0⟩, last := clock }

def finish (s : Statistics) : Statistics :=
  let phases := [s.parse, s.convert, s.solve, s.output].filterMap id
  { s with total := some ⟨phases.foldl (fun sum t => sum + t.cpu) 0, 0⟩ }

def notAvailable : String := "n/a"

def secondsText (x : Float) : String := fixedFloat 3 x ++ "s"

def timeText (t : Option Time) : String := (t.map fun t => secondsText t.cpu).getD notAvailable

def memoryText? : Option Int → Option String
  | none => some notAvailable
  | some n => (ByteSize.count n).text?

def rowsWith (s : Statistics) (own memory : String) : List (String × String) :=
  [("Parsowanie", timeText s.parse),
    ("Konwersja", timeText s.convert),
    ("Rozwiązywanie", timeText s.solve),
    ("Zapis", timeText s.output),
    ("Razem", timeText s.total),
    ("Pamięć", own),
    ("ILASP CPU", (s.ilaspCpu.map secondsText).getD notAvailable),
    ("ILASP pamięć", memory),
    ("Wszechświat",
      (s.universeStats.map fun u => intText u.size ++ " literałów").getD notAvailable),
    ("Różne predykaty", (s.universeStats.map fun u => intText u.predicates).getD notAvailable)]

/-- The rows of the table, given the memory of the program, or nothing when a memory is too large to
be printed. -/
def rows? (s : Statistics) (own : Option Int) : Option (List (String × String)) := do
  return s.rowsWith (← memoryText? own) (← memoryText? s.ilaspMemory)

end Statistics

end AnswerSetLearning
