import CodeGateway.Json.Fault

/-!
Numbers in JSON text. An integer of at most 64 bits stays one; every other number is the double
that comes from its leading digits, as far as they fit in 64 bits, and a power of ten.
-/

namespace CodeGateway.Json

def digit? (byte : UInt8) : Option Nat :=
  if 0x30 ≤ byte && byte ≤ 0x39 then some (byte.toNat - 0x30) else none

def isDigit (byte : UInt8) : Bool :=
  (digit? byte).isSome

/-- Reads digits onto a number while it stays below `bound`: the number, how many digits were
    read, and what follows them. -/
def digitsBelow (bound : Nat) : List UInt8 → (number count : Nat) → Nat × Nat × List UInt8
  | [], number, count => (number, count, [])
  | byte :: rest, number, count =>
    match digit? byte with
    | some d =>
      if number * 10 + d < bound then digitsBelow bound rest (number * 10 + d) (count + 1)
      else (number, count, byte :: rest)
    | none => (number, count, byte :: rest)

def startsWithDigit : List UInt8 → Bool
  | byte :: _ => isDigit byte
  | [] => false

def scaleDown : (steps : Nat) → Float → (power : Nat) → Float
  | 0, x, _ => x
  | steps + 1, x, power =>
    if power ≤ 308 then x / Float.ofScientific 1 false power
    else if x == 0 then x
    else scaleDown steps (x / Float.ofScientific 1 false 308) (power - 308)

def scaledFloat (number : Nat) (power : Int) : Option Float :=
  let x := (UInt64.ofNat number).toFloat
  if power < 0 then some (scaleDown 4 x power.natAbs)
  else if 308 < power then (if x == 0 then some x else none)
  else
    let scaled := x * Float.ofScientific 1 false power.toNat
    if scaled.isInf then none else some scaled

def signedFloat (negative : Bool) (number : Nat) (power : Int) (rest : List UInt8) :
    Reading Json :=
  match scaledFloat number power with
  | some x => .ok (.float (if negative then -x else x), rest)
  | none => faultAt .numberOutOfRange rest

def exponent (negative : Bool) (number : Nat) (power : Int) (input : List UInt8) :
    Reading Json :=
  let (down, input) := match input with
    | 0x2B :: rest => (false, rest)
    | 0x2D :: rest => (true, rest)
    | _ => (false, input)
  match input with
  | [] => faultAt .endInValue []
  | byte :: rest =>
    if !isDigit byte then faultAt .invalidNumber rest
    else
      let (size, _, rest) := digitsBelow 0x80000000 input 0 0
      match rest with
      | next :: after =>
        if !isDigit next then
          signedFloat negative number (if down then power - size else power + size) rest
        else if number != 0 && !down then faultAt .numberOutOfRange after
        else .ok (.float (if negative then -0.0 else 0.0), after.dropWhile isDigit)
      | [] => signedFloat negative number (if down then power - size else power + size) rest

def exponentOrEnd (negative : Bool) (number : Nat) (power : Int) (input : List UInt8) :
    Reading Json :=
  match input with
  | byte :: rest =>
    if byte == 0x65 || byte == 0x45 then exponent negative number power rest
    else signedFloat negative number power input
  | [] => signedFloat negative number power []

/-- The digits after the point, with the point already read. Digits that no longer fit are
    dropped. -/
def decimals (negative : Bool) (number : Nat) (power : Int) (input : List UInt8) :
    Reading Json :=
  let (number, count, rest) := digitsBelow 0x10000000000000000 input number 0
  if startsWithDigit rest then
    exponentOrEnd negative number (power - count) (rest.dropWhile isDigit)
  else if count == 0 then
    faultAfter (if rest.isEmpty then .endInValue else .invalidNumber) rest
  else exponentOrEnd negative number (power - count) rest

def afterInteger (negative : Bool) (number : Nat) (input : List UInt8) : Reading Json :=
  let whole : Json :=
    if !negative then .int number
    else if number == 0 || 0x8000000000000000 < number then .float (-(UInt64.ofNat number).toFloat)
    else .int (-number)
  match input with
  | byte :: rest =>
    if byte == 0x2E then decimals negative number 0 rest
    else if byte == 0x65 || byte == 0x45 then exponent negative number 0 rest
    else .ok (whole, input)
  | [] => .ok (whole, [])

def afterLongInteger (negative : Bool) (number : Nat) (input : List UInt8) : Reading Json :=
  let power := (input.takeWhile isDigit).length
  match input.dropWhile isDigit with
  | 0x2E :: rest => decimals negative number power rest
  | rest => exponentOrEnd negative number power rest

/-- A number, with its minus sign already read. A zero in front stands alone. -/
def number (negative : Bool) (input : List UInt8) : Reading Json :=
  match input with
  | [] => faultAt .endInValue []
  | byte :: rest =>
    if byte == 0x30 then
      if startsWithDigit rest then faultAfter .invalidNumber rest else afterInteger negative 0 rest
    else if isDigit byte then
      let (number, _, rest) := digitsBelow 0x10000000000000000 input 0 0
      if startsWithDigit rest then afterLongInteger negative number rest
      else afterInteger negative number rest
    else faultAt .invalidNumber rest

end CodeGateway.Json
