/-!
Punycode: a label with characters outside ASCII as ASCII. The plain characters come first; every
other one is inserted in rising order, as the distance from the one inserted before it, written
with digits whose weights adapt to the distances seen so far.
-/

namespace CodeGateway.Domain.Punycode

def digit (n : Nat) : Char :=
  if n < 26 then Char.ofNat (0x61 + n) else Char.ofNat (0x30 + (n - 26))

def digitValue? (c : Char) : Option Nat :=
  if 'a' ≤ c ∧ c ≤ 'z' then some (c.toNat - 0x61)
  else if 'A' ≤ c ∧ c ≤ 'Z' then some (c.toNat - 0x41)
  else if '0' ≤ c ∧ c ≤ '9' then some (c.toNat - 0x30 + 26)
  else none

/-- The least digit that is not the last, at a place with this weight. -/
def threshold (place bias : Nat) : Nat :=
  if place ≤ bias + 1 then 1 else if bias + 26 ≤ place then 26 else place - bias

/-- The bias after a distance, with `count` characters in place. The fuel is the distance. -/
def adaptFrom : (fuel distance places : Nat) → Nat
  | 0, distance, places => places + 36 * distance / (distance + 38)
  | fuel + 1, distance, places =>
    if 455 < distance then adaptFrom fuel (distance / 35) (places + 36)
    else places + 36 * distance / (distance + 38)

def adapt (distance count : Nat) (first : Bool) : Nat :=
  let damped := if first then distance / 700 else distance / 2
  let scaled := damped + damped / count
  adaptFrom scaled scaled 0

def digits : (fuel bias place distance : Nat) → List Char
  | 0, _, _, distance => [digit distance]
  | fuel + 1, bias, place, distance =>
    let least := threshold place bias
    if distance < least then [digit distance]
    else
      digit (least + (distance - least) % (36 - least)) ::
        digits fuel bias (place + 36) ((distance - least) / (36 - least))

structure State where
  point : Nat
  distance : Nat
  bias : Nat
  count : Nat
  written : List Char

/-- Goes over the label once, inserting the number `next` wherever it stands. -/
def insertAll (plain next : Nat) : List Nat → State → State
  | [], state => state
  | point :: rest, state =>
    if point < next then
      insertAll plain next rest { state with distance := state.distance + 1 }
    else if point == next then
      insertAll plain next rest
        { state with
          distance := 0
          bias := adapt state.distance (state.count + 1) (state.count == plain)
          count := state.count + 1
          written := state.written ++ digits (state.distance + 1) state.bias 36 state.distance }
    else insertAll plain next rest state

/-- Inserts the numbers of the label from the least to the greatest; the fuel is their count. -/
def insertRising (plain : Nat) (label : List Nat) : (fuel : Nat) → State → State
  | 0, state => state
  | fuel + 1, state =>
    match (label.filter (state.point ≤ ·)).min? with
    | none => state
    | some next =>
      let distance := state.distance + (next - state.point) * (state.count + 1)
      let state := insertAll plain next label { state with point := next, distance := distance }
      insertRising plain label fuel
        { state with point := next + 1, distance := state.distance + 1 }

def encode (label : List Char) : List Char :=
  let plain := label.filter (·.toNat < 0x80)
  let lead := if plain.isEmpty then [] else plain ++ ['-']
  let start : State := ⟨0x80, 0, 72, plain.length, []⟩
  lead ++ (insertRising plain.length (label.map Char.toNat) label.length start).written

def distance (bias : Nat) : List Char → (place weight total : Nat) → Option (Nat × List Char)
  | [], _, _, _ => none
  | c :: rest, place, weight, total =>
    match digitValue? c with
    | none => none
    | some value =>
      let total := total + value * weight
      let least := threshold place bias
      if value < least then some (total, rest)
      else distance bias rest (place + 36) (weight * (36 - least)) total

def insertAt (index : Nat) (c : Char) (label : List Char) : List Char :=
  label.take index ++ c :: label.drop index

/-- Inserts the characters that the digits stand for. The fuel is the number of digits. -/
def decodeFrom : (fuel : Nat) → (digits label : List Char) → (point index bias : Nat) →
    Option (List Char)
  | _, [], label, _, _, _ => some label
  | 0, _ :: _, _, _, _, _ => none
  | fuel + 1, digits, label, point, index, bias =>
    match distance bias digits 36 1 0 with
    | none => none
    | some (size, rest) =>
      let total := index + size
      let count := label.length + 1
      let point := point + total / count
      let place := total % count
      if 0x110000 ≤ point || (0xD800 ≤ point && point < 0xE000) then none
      else
        decodeFrom fuel rest (insertAt place (Char.ofNat point) label) point (place + 1)
          (adapt size count (index == 0))

def decode (text : List Char) : Option (List Char) :=
  let tail := (text.reverse.takeWhile (· != '-')).reverse
  let plain := text.take (text.length - tail.length)
  decodeFrom tail.length tail plain.dropLast 0x80 0 72

end CodeGateway.Domain.Punycode
