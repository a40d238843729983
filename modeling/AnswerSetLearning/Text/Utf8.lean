import AnswerSetLearning.Text.Quoted

namespace AnswerSetLearning

inductive Utf8Reason
  | startByte
  | continuation
  | endOfData
  deriving DecidableEq

structure Utf8Fault where
  byte : Nat
  first : Nat
  count : Nat
  reason : Utf8Reason
  deriving DecidableEq

def Utf8Reason.text : Utf8Reason → String
  | startByte => "invalid start byte"
  | continuation => "invalid continuation byte"
  | endOfData => "unexpected end of data"

def Utf8Fault.message (f : Utf8Fault) : String :=
  "'utf-8' codec can't decode " ++
    (if f.count = 1 then "byte 0x" ++ hexDigits 2 f.byte ++ " in position " ++ Nat.repr f.first
    else "bytes in position " ++ Nat.repr f.first ++ "-" ++ Nat.repr (f.first + f.count - 1)) ++
    ": " ++ f.reason.text

inductive Utf8Step
  | char (c : Char) (size : Nat)
  | fault (size : Nat) (reason : Utf8Reason)

def isContinuation (b : Nat) : Bool := 0x80 ≤ b && b < 0xC0

/-- The least and the greatest second byte after the first byte of a longer sequence. They
leave out overlong forms, surrogates and what lies above the last code point. -/
def secondByteOk (lead second : Nat) : Bool :=
  isContinuation second &&
    !((lead == 0xE0 && second < 0xA0) || (lead == 0xED && 0xA0 ≤ second) ||
      (lead == 0xF0 && second < 0x90) || (lead == 0xF4 && 0x90 ≤ second))

def sequenceSize (lead : Nat) : Nat :=
  if lead < 0x80 then 1
  else if lead < 0xC2 then 0
  else if lead < 0xE0 then 2
  else if lead < 0xF0 then 3
  else if lead < 0xF5 then 4
  else 0

/-- Reads the sequence at the front of `lead :: rest`. A fault covers the bytes before the
first one that does not fit. -/
def utf8Step (lead : Nat) (rest : List Nat) : Utf8Step :=
  match sequenceSize lead, rest with
  | 1, _ => .char (Char.ofNat lead) 1
  | 2, b :: _ =>
    if isContinuation b then .char (Char.ofNat ((lead - 0xC0) * 64 + (b - 0x80))) 2
    else .fault 1 .continuation
  | 2, [] => .fault 1 .endOfData
  | 3, [] => .fault 1 .endOfData
  | 3, [b] => if secondByteOk lead b then .fault 2 .endOfData else .fault 1 .continuation
  | 3, b :: c :: _ =>
    if !secondByteOk lead b then .fault 1 .continuation
    else if !isContinuation c then .fault 2 .continuation
    else .char (Char.ofNat (((lead - 0xE0) * 64 + (b - 0x80)) * 64 + (c - 0x80))) 3
  | 4, [] => .fault 1 .endOfData
  | 4, [b] => if secondByteOk lead b then .fault 2 .endOfData else .fault 1 .continuation
  | 4, [b, c] =>
    if !secondByteOk lead b then .fault 1 .continuation
    else if !isContinuation c then .fault 2 .continuation
    else .fault 3 .endOfData
  | 4, b :: c :: d :: _ =>
    if !secondByteOk lead b then .fault 1 .continuation
    else if !isContinuation c then .fault 2 .continuation
    else if !isContinuation d then .fault 3 .continuation
    else
      .char (Char.ofNat
        ((((lead - 0xF0) * 64 + (b - 0x80)) * 64 + (c - 0x80)) * 64 + (d - 0x80))) 4
  | _, _ => .fault 1 .startByte

def decodeUtf8From (offset : Nat) : (skip : Nat) → List Nat → Except Utf8Fault (List Char)
  | _, [] => .ok []
  | skip + 1, _ :: bytes => decodeUtf8From (offset + 1) skip bytes
  | 0, lead :: bytes =>
    match utf8Step lead bytes with
    | .fault size reason => .error ⟨lead, offset, size, reason⟩
    | .char c size => (decodeUtf8From (offset + 1) (size - 1) bytes).map (c :: ·)

def decodeUtf8 (bytes : List Nat) : Except Utf8Fault (List Char) := decodeUtf8From 0 0 bytes

end AnswerSetLearning
