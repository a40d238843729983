import AnswerSetLearning.Text.Classes

namespace AnswerSetLearning

inductive Opt
  | help
  | version
  | output
  | template
  | run
  | ilasp
  | ilaspArg
  | ilaspOut
  | stats
  deriving DecidableEq

def Opt.takesValue : Opt → Bool
  | output | template | ilasp | ilaspArg | ilaspOut => true
  | help | version | run | stats => false

abbrev OptTable := List (String × Opt)

def helpOptions : OptTable := [("-h", .help), ("--help", .help)]

def programOptions : OptTable := helpOptions ++ [("--version", .version)]

def convertOptions : OptTable :=
  helpOptions ++
    [("-o", .output), ("--output", .output), ("--template", .template), ("-r", .run),
      ("--run", .run), ("--ilasp", .ilasp), ("--ilasp-arg", .ilaspArg),
      ("--ilasp-out", .ilaspOut), ("--stats", .stats)]

structure ConvertOptions where
  input : Option String
  output : Option String
  template : Option String
  run : Bool
  ilasp : Option String
  /-- the arguments for ILASP, when there are any on the command line; one without a text is
  given by dashes alone -/
  ilaspArgs : Option (List (Option String))
  ilaspOut : Option String
  stats : Bool
  deriving DecidableEq

def ConvertOptions.none : ConvertOptions := ⟨.none, .none, .none, false, .none, .none, .none, false⟩

inductive Command
  | convert (options : ConvertOptions)
  | check (input : Option String)
  | universe (input : Option String)
  deriving DecidableEq

inductive Usage
  | help
  | version
  | wrong
  deriving DecidableEq

namespace Arguments

structure Found where
  name : List Char
  opt : Opt
  value : Option (List Char)
  deriving DecidableEq

inductive Item
  | positional (s : String)
  | dashes
  | option (f : Found)
  | unknown
  deriving DecidableEq

def isShort (name : List Char) : Bool := name.take 2 != ['-', '-']

def lookup? (table : OptTable) (name : List Char) : Option Opt :=
  table.lookup (.ofList name)

def splitAtEquals (cs : List Char) : List Char × Option (List Char) :=
  match cs.dropWhile (· != '=') with
  | _ :: value => (cs.takeWhile (· != '='), some value)
  | [] => (cs, none)

/-- The options a shortened long option, or a single letter with its value, may mean. -/
def candidates (table : OptTable) (cs : List Char) : List Found :=
  if isShort cs then
    (table.filter fun e => e.1.toList == cs.take 2).map fun e =>
      ⟨e.1.toList, e.2, some (cs.drop 2)⟩
  else
    let (start, value) := splitAtEquals cs
    (table.filter fun e => start.isPrefixOf e.1.toList).map fun e =>
      ⟨e.1.toList, e.2, value⟩

def isNegativeNumber : List Char → Bool
  | '-' :: cs =>
    let whole := cs.takeWhile isDecimalDigit
    match cs.dropWhile isDecimalDigit with
    | [] => !whole.isEmpty
    | '.' :: fraction => !fraction.isEmpty && fraction.all isDecimalDigit
    | _ => false
  | _ => false

def fullName? (table : OptTable) (cs : List Char) : Option Found :=
  match lookup? table cs with
  | some opt => some ⟨cs, opt, none⟩
  | none =>
    match splitAtEquals cs with
    | (name, some value) => (lookup? table name).map fun opt => ⟨name, opt, some value⟩
    | _ => none

/-- What an argument before `--` is. -/
def classify (table : OptTable) (s : String) : Except Usage Item :=
  let cs := s.toList
  if cs.head? ≠ some '-' || cs.length = 1 then .ok (.positional s)
  else match fullName? table cs with
    | some f => .ok (.option f)
    | none =>
      match candidates table cs with
      | [f] => .ok (.option f)
      | _ :: _ :: _ => .error .wrong
      | [] =>
        if isNegativeNumber cs || cs.contains ' ' then .ok (.positional s) else .ok .unknown

def classifyAll (table : OptTable) : List String → Except Usage (List Item)
  | [] => .ok []
  | s :: rest =>
    if s = "--" then .ok (.dashes :: rest.map .positional)
    else do
      let item ← classify table s
      let items ← classifyAll table rest
      return item :: items

/-- What an argument with options says: options without a value, and at the end perhaps one with
a value, or one that takes the next argument as its value. -/
inductive Tail
  | none
  | value (opt : Opt) (v : String)
  | next (opt : Opt)
  deriving DecidableEq

def letters (table : OptTable) (opt : Opt) : List Char → Except Usage (List Opt × Tail)
  | [] => if opt.takesValue then .ok ([], .value opt "") else .error .wrong
  | c :: cs =>
    if opt.takesValue then .ok ([], .value opt (.ofList (c :: cs)))
    else match lookup? table ['-', c], cs with
      | none, _ => .error .wrong
      | some next, [] =>
        .ok (if next.takesValue then ([opt], .next next) else ([opt, next], .none))
      | some next, cs => (letters table next cs).map fun (os, t) => (opt :: os, t)

def readFound (table : OptTable) (f : Found) : Except Usage (List Opt × Tail) :=
  match f.value with
  | none => .ok (if f.opt.takesValue then ([], .next f.opt) else ([f.opt], .none))
  | some v =>
    if isShort f.name then letters table f.opt v
    else if f.opt.takesValue then .ok ([], .value f.opt (.ofList v))
    else .error .wrong

structure Parsed where
  options : ConvertOptions
  inputSeen : Bool
  leftOver : Bool
  deriving DecidableEq

namespace Parsed

def start : Parsed := ⟨.none, false, false⟩

def setFlag (p : Parsed) : Opt → Except Usage Parsed
  | .help => .error .help
  | .version => .error .version
  | .run => .ok { p with options.run := true }
  | .stats => .ok { p with options.stats := true }
  | _ => .ok p

def setFlags (p : Parsed) : List Opt → Except Usage Parsed
  | [] => .ok p
  | o :: os => (p.setFlag o).bind fun p => p.setFlags os

/-- Sets the value of an option. Two dashes written together with it are no value. -/
def setValue (p : Parsed) (s : String) (opt : Opt) : Parsed :=
  let v := if s = "--" then none else some s
  match opt with
  | .output => { p with options.output := v }
  | .template => { p with options.template := v }
  | .ilasp => { p with options.ilasp := v }
  | .ilaspArg => { p with options.ilaspArgs := some (p.options.ilaspArgs.getD [] ++ [v]) }
  | .ilaspOut => { p with options.ilaspOut := v }
  | _ => p

def setInput (p : Parsed) (v : Option String) : Parsed :=
  { p with options.input := v, inputSeen := true }

def addLeftOver (p : Parsed) : Parsed := { p with leftOver := true }

end Parsed

/-- Reads the arguments of a command. The one input may have a `--` before or after it. -/
def readItems (table : OptTable) : Parsed → List Item → Except Usage Parsed
  | p, [] => .ok p
  | p, .unknown :: items => readItems table p.addLeftOver items
  | p, .dashes :: .positional v :: items =>
    readItems table (if p.inputSeen then p.addLeftOver else p.setInput (some v)) items
  | p, .dashes :: items =>
    readItems table (if p.inputSeen then p.addLeftOver else p.setInput none) items
  | p, .positional v :: .dashes :: items =>
    readItems table (if p.inputSeen then p.addLeftOver else p.setInput (some v)) items
  | p, .positional v :: items =>
    readItems table (if p.inputSeen then p.addLeftOver else p.setInput (some v)) items
  | p, .option f :: items =>
    match readFound table f with
    | .error u => .error u
    | .ok (flags, tail) =>
      match tail, items with
      | .next opt, .positional v :: items =>
        (p.setFlags flags).bind fun p => readItems table (p.setValue v opt) items
      | .next _, _ => .error .wrong
      | .value opt v, items =>
        (p.setFlags flags).bind fun p => readItems table (p.setValue v opt) items
      | .none, items => (p.setFlags flags).bind fun p => readItems table p items

def readCommandOptions (table : OptTable) (args : List String) : Except Usage Parsed := do
  let items ← classifyAll table args
  readItems table .start items

def readCommand (name : String) (args : List String) (leftOver : Bool) :
    Except Usage Command := do
  let finish (p : Parsed) (c : Command) : Except Usage Command :=
    if leftOver || p.leftOver then .error .wrong else .ok c
  if name = "convert" then
    let p ← readCommandOptions convertOptions args
    finish p (.convert p.options)
  else if name = "check" then
    let p ← readCommandOptions helpOptions args
    finish p (.check p.options.input)
  else if name = "universe" then
    let p ← readCommandOptions helpOptions args
    finish p (.universe p.options.input)
  else .error .wrong

/-- Reads the options before the name of the command; `args` are the arguments of the items. -/
def readProgram (leftOver : Bool) : List Item → List String → Except Usage Command
  | .positional name :: _, _ :: args => readCommand name args leftOver
  | .option f :: items, _ :: args =>
    match readFound programOptions f with
    | .error u => .error u
    | .ok (flags, _) => (Parsed.start.setFlags flags).bind fun _ => readProgram leftOver items args
  | .unknown :: items, _ :: args => readProgram true items args
  | _, _ => .error .wrong

end Arguments

def readArguments (args : List String) : Except Usage Command := do
  let items ← Arguments.classifyAll programOptions args
  Arguments.readProgram false items args

end AnswerSetLearning
