import AnswerSetLearning.Template.Fault

namespace AnswerSetLearning.Template

/-- `round` is a round of a loop: the values of the rounds before it, the latest first, and those
of the rounds after it. -/
inductive Value
  | text (s : String)
  | number (n : Nat)
  | truth (b : Bool)
  | nothing
  | list (vs : List Value)
  | mapping (fields : List (String × Value))
  | round (before after : List Value)
  | kind (name : String)
  | routine

/-- A value, or what is wrong with a name without one, which counts only when it is used. -/
abbrev Lookup := Except Problem Value

namespace Value

mutual

/-- A value inside a list or a mapping. What is shown of a routine is not the same in each run. -/
def inner : Value → Except Problem String
  | text s => .ok (quoted s)
  | number n => .ok (Nat.repr n)
  | truth b => .ok (if b then "True" else "False")
  | nothing => .ok "None"
  | list vs => (innerAll vs).map fun texts => "[" ++ joinWith ", " texts ++ "]"
  | mapping fields =>
    (innerFields fields).map fun texts => "\x7b" ++ joinWith ", " texts ++ "\x7d"
  | round before after =>
    .ok ("<LoopContext " ++ Nat.repr (before.length + 1) ++ "/" ++
      Nat.repr (before.length + 1 + after.length) ++ ">")
  | kind name => .ok ("<class " ++ quoted name ++ ">")
  | routine => .error .beyond

def innerAll : List Value → Except Problem (List String)
  | [] => .ok []
  | v :: vs => do
    let text ← v.inner
    let texts ← innerAll vs
    return text :: texts

def innerFields : List (String × Value) → Except Problem (List String)
  | [] => .ok []
  | (k, v) :: fields => do
    let text ← v.inner
    let texts ← innerFields fields
    return (quoted k ++ ": " ++ text) :: texts

end

def display : Value → Except Problem String
  | text s => .ok s
  | v => v.inner

def holds : Value → Bool
  | text s => !s.isEmpty
  | number n => n != 0
  | truth b => b
  | nothing => false
  | list vs => !vs.isEmpty
  | mapping fields => !fields.isEmpty
  | _ => true

def elements? : Value → Option (List Value)
  | text s => some (s.toList.map fun c => text (.ofList [c]))
  | list vs => some vs
  | mapping fields => some (fields.map fun (k, _) => text k)
  | _ => none

def elements (v : Value) : Except Problem (List Value) :=
  match v.elements? with
  | some vs => .ok vs
  | none => .error .wrongKind

def size? : Value → Option Nat
  | round before after => some (before.length + 1 + after.length)
  | v => v.elements?.map List.length

def kindName : Value → String
  | text _ => "str"
  | number _ => "int"
  | truth _ => "bool"
  | nothing => "NoneType"
  | list _ => "list"
  | mapping _ => "dict"
  | round _ _ => "jinja2.runtime.LoopContext"
  | kind _ => "type"
  | routine => "builtin_function_or_method"

def faultName : Value → String
  | nothing => "None"
  | v => v.kindName ++ " object"

section Members

def routines : Value → List String
  | text _ =>
    ["capitalize", "casefold", "center", "count", "encode", "endswith", "expandtabs", "find",
      "format", "format_map", "index", "isalnum", "isalpha", "isascii", "isdecimal", "isdigit",
      "isidentifier", "islower", "isnumeric", "isprintable", "isspace", "istitle", "isupper",
      "join", "ljust", "lower", "lstrip", "maketrans", "partition", "removeprefix",
      "removesuffix", "replace", "rfind", "rindex", "rjust", "rpartition", "rsplit", "rstrip",
      "split", "splitlines", "startswith", "strip", "swapcase", "title", "translate", "upper",
      "zfill"]
  | list _ =>
    ["append", "clear", "copy", "count", "extend", "index", "insert", "pop", "remove", "reverse",
      "sort"]
  | mapping _ =>
    ["clear", "copy", "fromkeys", "get", "items", "keys", "pop", "popitem", "setdefault",
      "update", "values"]
  | round _ _ => ["changed", "cycle"]
  | _ => []

/-- Whether no more is known of what a value holds under the name. -/
def isBeyond (v : Value) (name : String) : Bool :=
  match v with
  | number _ | truth _ | kind _ | routine => true
  | round _ _ => name.toList.head? = some '_'
  | _ => name.toList.take 2 = ['_', '_']

def neighbour (side : String) : List Value → Lookup
  | [] => .error (.fault (.noNeighbour side))
  | v :: _ => .ok v

def place? (before after : List Value) : String → Option Lookup
  | "index" => some (.ok (number (before.length + 1)))
  | "index0" => some (.ok (number before.length))
  | "revindex" => some (.ok (number (after.length + 1)))
  | "revindex0" => some (.ok (number after.length))
  | "first" => some (.ok (truth before.isEmpty))
  | "last" => some (.ok (truth after.isEmpty))
  | "length" => some (.ok (number (before.length + 1 + after.length)))
  | "depth" => some (.ok (number 1))
  | "depth0" => some (.ok (number 0))
  | "previtem" => some (neighbour "previous" before)
  | "nextitem" => some (neighbour "next" after)
  | _ => none

def field? (v : Value) (x : String) : Option Lookup :=
  match v with
  | mapping fields => (fields.lookup x).map .ok
  | round before after => place? before after x
  | _ => none

def member (v : Value) (x : String) : Lookup :=
  match v.field? x with
  | some found => found
  | none =>
    if v.routines.contains x then .ok routine
    else if v.isBeyond x then .error .beyond
    else .error (.fault (.noAttribute v.faultName x))

def index? : Value → Option Nat
  | number n => some n
  | truth b => some b.toNat
  | _ => none

def element? (v : Value) (n : Nat) : Option Value :=
  match v with
  | mapping _ => none
  | v => v.elements?.bind (·[n]?)

def elementAt (v key : Value) : Lookup :=
  match v, key.index?.bind v.element? with
  | kind _, _ | routine, _ => .error .beyond
  | _, some w => .ok w
  | _, none => key.inner.bind fun shown => .error (.fault (.noElement v.faultName shown))

def item (v : Value) : Value → Lookup
  | text x => v.member x
  | key => v.elementAt key

end Members

def ofTexts (texts : List String) : Value := list (texts.map text)

end Value

end AnswerSetLearning.Template
