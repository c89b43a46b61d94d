import CodeGateway.Json.Reader

/-!
Going over a value in JSON text without reading it. Brackets may nest at any depth, numbers may have
any size, and numbered escapes may stand for half a character; otherwise the text is checked.
-/

namespace CodeGateway.Json

def skipPower (input : List UInt8) : Except Fault (List UInt8) :=
  let digits := match input with
    | byte :: rest => if byte == 0x2B || byte == 0x2D then rest else input
    | [] => []
  if startsWithDigit digits then .ok (digits.dropWhile isDigit)
  else faultAfter .invalidNumber digits

def skipExponent (input : List UInt8) : Except Fault (List UInt8) :=
  match input with
  | byte :: rest => if byte == 0x65 || byte == 0x45 then skipPower rest else .ok input
  | [] => .ok []

def skipFraction (input : List UInt8) : Except Fault (List UInt8) :=
  match input with
  | 0x2E :: rest =>
    if startsWithDigit rest then skipExponent (rest.dropWhile isDigit)
    else faultAfter .invalidNumber rest
  | _ => skipExponent input

def skipNumber (input : List UInt8) : Except Fault (List UInt8) :=
  match input with
  | 0x30 :: rest =>
    if startsWithDigit rest then faultAfter .invalidNumber rest else skipFraction rest
  | _ =>
    if startsWithDigit input then skipFraction (input.dropWhile isDigit)
    else faultAfter .invalidNumber input

/-- Goes over a string behind its opening quote. The digits of a numbered escape are checked where
    it starts and then gone over like any others. -/
def skipString : List UInt8 → Except Fault (List UInt8)
  | [] => faultAt .endInString []
  | 0x22 :: rest => .ok rest
  | [0x5C] => faultAt .endInString []
  | 0x5C :: letter :: rest =>
    if letter == 0x75 then
      match hexUnit rest with
      | .ok _ => skipString rest
      | .error fault => .error fault
    else if (escapedByte? letter).isSome then skipString rest
    else faultAt .invalidEscape rest
  | byte :: rest =>
    if byte < 0x20 then faultAt .controlCharacter (byte :: rest) else skipString rest

def skipScalar (byte : UInt8) (rest : List UInt8) : Except Fault (List UInt8) :=
  if byte == 0x2D then skipNumber rest
  else if isDigit byte then skipNumber (byte :: rest)
  else if byte == 0x22 then skipString rest
  else (scalar byte rest).map Prod.snd

def skipKey (input : List UInt8) : Except Fault (List UInt8) :=
  match skipSpace input with
  | [] => faultAfter .endInObject []
  | byte :: rest =>
    if byte == 0x22 then do
      let rest ← skipString rest
      let (_, rest) ← colon rest
      .ok rest
    else faultAfter .keyNotString (byte :: rest)

inductive Bracket where
  | list
  | object
  deriving DecidableEq

namespace Bracket

def closing : Bracket → UInt8
  | list => 0x5D
  | object => 0x7D

def endOfText : Bracket → Cause
  | list => .endInList
  | object => .endInObject

def expectedEnd : Bracket → Cause
  | list => .expectedListEnd
  | object => .expectedObjectEnd

def skipToValue (bracket : Bracket) (input : List UInt8) : Except Fault (List UInt8) :=
  match bracket with
  | list => .ok input
  | object => skipKey input

end Bracket

inductive Place where
  | beforeValue
  | opened
  | afterValue
  deriving DecidableEq

/-- Goes on until all brackets are closed, the innermost of which comes first. The fuel is twice the
    number of bytes. -/
def skipFrom : (fuel : Nat) → Place → List Bracket → List UInt8 → Except Fault (List UInt8)
  | 0, _, _, input => faultAfter .endInValue input
  | fuel + 1, .beforeValue, brackets, input =>
    match skipSpace input with
    | [] => faultAfter .endInValue []
    | byte :: rest =>
      if byte == 0x5B then skipFrom fuel .opened (.list :: brackets) rest
      else if byte == 0x7B then skipFrom fuel .opened (.object :: brackets) rest
      else
        match skipScalar byte rest with
        | .ok rest => skipFrom fuel .afterValue brackets rest
        | .error fault => .error fault
  | _ + 1, _, [], input => .ok input
  | fuel + 1, place, bracket :: outer, input =>
    match skipSpace input with
    | [] => faultAfter bracket.endOfText []
    | byte :: rest =>
      if byte == bracket.closing then skipFrom fuel .afterValue outer rest
      else if place == .afterValue && byte != 0x2C then
        faultAfter bracket.expectedEnd (byte :: rest)
      else
        match bracket.skipToValue (if place == .afterValue then rest else byte :: rest) with
        | .ok rest => skipFrom fuel .beforeValue (bracket :: outer) rest
        | .error fault => .error fault

def skipValue (input : List UInt8) : Except Fault (List UInt8) :=
  skipFrom (2 * input.length + 2) .beforeValue [] input

end CodeGateway.Json
