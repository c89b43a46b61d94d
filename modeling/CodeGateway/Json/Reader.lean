import CodeGateway.Json.Number
import CodeGateway.Text.Utf8

namespace CodeGateway.Json

def maxDepth : Nat := 127

def isSpace (byte : UInt8) : Bool :=
  byte == 0x20 || byte == 0x0A || byte == 0x0D || byte == 0x09

def skipSpace (input : List UInt8) : List UInt8 :=
  input.dropWhile isSpace

def word (value : Json) : List UInt8 → List UInt8 → Reading Json
  | [], input => .ok (value, input)
  | _ :: _, [] => faultAt .endInValue []
  | letter :: letters, byte :: rest =>
    if byte == letter then word value letters rest else faultAt .expectedWord rest

def hexDigit? (byte : UInt8) : Option Nat :=
  if 0x30 ≤ byte && byte ≤ 0x39 then some (byte.toNat - 0x30)
  else if 0x61 ≤ byte && byte ≤ 0x66 then some (byte.toNat - 0x57)
  else if 0x41 ≤ byte && byte ≤ 0x46 then some (byte.toNat - 0x37)
  else none

def hexUnit (input : List UInt8) : Reading Nat :=
  match input with
  | a :: b :: c :: d :: rest =>
    match hexDigit? a, hexDigit? b, hexDigit? c, hexDigit? d with
    | some a, some b, some c, some d => .ok (((a * 16 + b) * 16 + c) * 16 + d, rest)
    | _, _, _, _ => faultAt .invalidEscape rest
  | _ => faultAt .endInString []

def pairByte (expected : UInt8) (input : List UInt8) : Reading Unit :=
  match input with
  | [] => faultAt .endInString []
  | byte :: rest => if byte == expected then .ok ((), rest) else faultAt .endOfHexEscape rest

/-- The character of a numbered escape, or of two that make a pair of surrogates. -/
def hexEscape (input : List UInt8) : Except Fault (List UInt8 × List UInt8) := do
  let (unit, input) ← hexUnit input
  if 0xDC00 ≤ unit && unit ≤ 0xDFFF then faultAt .loneSurrogate input
  else if unit < 0xD800 || 0xDBFF < unit then .ok (Utf8.encodeChar (Char.ofNat unit), input)
  else
    let (_, input) ← pairByte 0x5C input
    let (_, input) ← pairByte 0x75 input
    let (second, input) ← hexUnit input
    if second < 0xDC00 || 0xDFFF < second then faultAt .loneSurrogate input
    else
      let point := (unit - 0xD800) * 1024 + (second - 0xDC00) + 0x10000
      .ok (Utf8.encodeChar (Char.ofNat point), input)

def escapedByte? (letter : UInt8) : Option UInt8 :=
  if letter == 0x22 || letter == 0x5C || letter == 0x2F then some letter
  else if letter == 0x62 then some 8
  else if letter == 0x66 then some 12
  else if letter == 0x6E then some 10
  else if letter == 0x72 then some 13
  else if letter == 0x74 then some 9
  else none

def escape (input : List UInt8) : Reading (List UInt8) :=
  match input with
  | [] => faultAt .endInString []
  | letter :: rest =>
    if letter == 0x75 then hexEscape rest
    else
      match escapedByte? letter with
      | some byte => .ok ([byte], rest)
      | none => faultAt .invalidEscape rest

/-- The bytes up to the closing quote, which is read too; `done` holds those read so far, the last
    one first. The fuel is the number of bytes. -/
def stringBytes : (fuel : Nat) → (done input : List UInt8) → Reading (List UInt8)
  | 0, _, input => faultAt .endInString input
  | fuel + 1, done, input =>
    match input with
    | [] => faultAt .endInString []
    | byte :: rest =>
      if byte == 0x22 then .ok (done.reverse, rest)
      else if byte == 0x5C then
        match escape rest with
        | .ok (bytes, rest) => stringBytes fuel (bytes.reverse ++ done) rest
        | .error fault => .error fault
      else if byte < 0x20 then faultAt .controlCharacter rest
      else stringBytes fuel (byte :: done) rest

/-- What stands behind the first byte that no character has. Escapes are characters themselves, so
    that byte is the same in the written text and in the text that it stands for. -/
def behindInvalid (input : List UInt8) : List UInt8 :=
  match Utf8.decode input with
  | .ok _ => []
  | .error invalid => input.drop (invalid.index + 1)

def stringRest (input : List UInt8) : Reading String :=
  match stringBytes (input.length + 1) [] input with
  | .ok (bytes, rest) =>
    match Utf8.text bytes with
    | .ok s => .ok (s, rest)
    | .error _ => faultAt .invalidText (behindInvalid input)
  | .error fault => .error fault

def nextItem (first : Bool) (input : List UInt8) : Reading Bool :=
  match skipSpace input with
  | [] => faultAfter .endInList []
  | byte :: rest =>
    if byte == 0x5D then .ok (false, rest)
    else if first then .ok (true, byte :: rest)
    else if byte == 0x2C then
      match skipSpace rest with
      | [] => faultAfter .endInValue []
      | next :: rest =>
        if next == 0x5D then faultAfter .trailingComma (next :: rest) else .ok (true, next :: rest)
    else faultAfter .expectedListEnd (byte :: rest)

/-- Goes to the next key of an object and over its opening quote, or over the closing brace. -/
def nextKey (first : Bool) (input : List UInt8) : Reading Bool :=
  match skipSpace input with
  | [] => faultAfter .endInObject []
  | byte :: rest =>
    if byte == 0x7D then .ok (false, rest)
    else if first then
      if byte == 0x22 then .ok (true, rest) else faultAfter .keyNotString (byte :: rest)
    else if byte == 0x2C then
      match skipSpace rest with
      | [] => faultAfter .endInValue []
      | next :: rest =>
        if next == 0x22 then .ok (true, rest)
        else if next == 0x7D then faultAfter .trailingComma (next :: rest)
        else faultAfter .keyNotString (next :: rest)
    else faultAfter .expectedObjectEnd (byte :: rest)

def colon (input : List UInt8) : Reading Unit :=
  match skipSpace input with
  | [] => faultAfter .endInObject []
  | byte :: rest =>
    if byte == 0x3A then .ok ((), rest) else faultAfter .expectedColon (byte :: rest)

def itemsWith (item : List UInt8 → Reading Json) :
    (fuel : Nat) → (done : List Json) → (input : List UInt8) →
      Except Fault (List Json × List UInt8)
  | 0, _, input => faultAt .endInList input
  | fuel + 1, done, input => do
    let (more, input) ← nextItem done.isEmpty input
    if more then
      let (value, input) ← item input
      itemsWith item fuel (value :: done) input
    else .ok (done.reverse, input)

def membersWith (item : List UInt8 → Reading Json) :
    (fuel : Nat) → (done : List (String × Json)) → (input : List UInt8) →
      Except Fault (List (String × Json) × List UInt8)
  | 0, _, input => faultAt .endInObject input
  | fuel + 1, done, input => do
    let (more, input) ← nextKey done.isEmpty input
    if more then
      let (key, input) ← stringRest input
      let (_, input) ← colon input
      let (value, input) ← item input
      membersWith item fuel ((key, value) :: done) input
    else .ok (done.reverse, input)

def scalar (byte : UInt8) (rest : List UInt8) : Reading Json :=
  if byte == 0x6E then word .null [0x75, 0x6C, 0x6C] rest
  else if byte == 0x74 then word (.bool true) [0x72, 0x75, 0x65] rest
  else if byte == 0x66 then word (.bool false) [0x61, 0x6C, 0x73, 0x65] rest
  else if byte == 0x2D then number true rest
  else if isDigit byte then number false (byte :: rest)
  else if byte == 0x22 then (stringRest rest).map fun read => (.string read.1, read.2)
  else faultAfter .expectedValue (byte :: rest)

def value : (depth : Nat) → (input : List UInt8) → Reading Json
  | depth, input =>
    match skipSpace input with
    | [] => faultAfter .endInValue []
    | byte :: rest =>
      if byte == 0x5B then
        match depth with
        | 0 => faultAfter .tooDeep (byte :: rest)
        | depth + 1 =>
          (itemsWith (value depth) (rest.length + 1) [] rest).map fun read =>
            (.array read.1, read.2)
      else if byte == 0x7B then
        match depth with
        | 0 => faultAfter .tooDeep (byte :: rest)
        | depth + 1 =>
          (membersWith (value depth) (rest.length + 1) [] rest).map fun read =>
            (ofMembers read.1, read.2)
      else scalar byte rest

def atEnd {α : Type} (read : α × List UInt8) : Except Fault α :=
  match skipSpace read.2 with
  | [] => .ok read.1
  | rest => faultAfter .trailingBytes rest

def parse (bytes : List UInt8) : Except TextError Json :=
  ((value maxDepth bytes).bind atEnd).mapError (·.locate bytes)

end CodeGateway.Json
