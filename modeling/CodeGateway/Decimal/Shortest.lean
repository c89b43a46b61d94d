import CodeGateway.Decimal.Binary

/-!
The fewest decimal digits that read back as a given double. Around every double lies an interval
of numbers that are rounded to it; among the decimals in that interval those with the fewest digits
are taken, and of these the one nearest to the double.
-/

namespace CodeGateway.Decimal

structure Scaled where
  digits : Nat
  exponent : Int
  deriving DecidableEq

/-- A double and the interval of the numbers that are rounded to it, all counted in `1 / unit`. The
    ends belong to the interval when the mantissa is even. -/
structure Span where
  value : Nat
  low : Nat
  high : Nat
  unit : Nat
  closed : Bool

/-- Below a power of two the doubles lie twice as close as above it, save at the smallest scale. -/
def Span.ofBinary (b : Binary) : Span :=
  let below := if b.mantissa == 0x10000000000000 && -1074 < b.exponent then 1 else 2
  let scale := Nat.pow 2 (b.exponent - 2).toNat
  { value := 4 * b.mantissa * scale
    low := (4 * b.mantissa - below) * scale
    high := (4 * b.mantissa + 2) * scale
    unit := Nat.pow 2 (2 - b.exponent).toNat
    closed := b.mantissa % 2 == 0 }

def digitCount (n : Nat) : Nat :=
  (Nat.toDigits 10 n).length

/-- How many digits stand before the point: the `p` with `10 ^ (p - 1) ≤ value < 10 ^ p`. It is not
    positive when zeros follow the point. -/
def Span.point (s : Span) : Int :=
  if s.unit ≤ s.value then digitCount (s.value / s.unit)
  else
    let zeros := digitCount (s.unit / s.value)
    if s.value * Nat.pow 10 (zeros - 1) == s.unit then 2 - (zeros : Int) else 1 - (zeros : Int)

/-- The multiple of `10 ^ exponent` inside the interval that is nearest to the value, if one is:
    only the two neighbours of the value need a look. -/
def Span.onGrid (s : Span) (exponent : Int) : Option Nat :=
  let step := s.unit * Nat.pow 10 exponent.toNat
  let scale := Nat.pow 10 (-exponent).toNat
  let under := s.value * scale / step
  let inside (n : Nat) : Bool :=
    if s.closed then s.low * scale ≤ n * step && n * step ≤ s.high * scale
    else s.low * scale < n * step && n * step < s.high * scale
  match inside under, inside (under + 1) with
  | false, false => none
  | true, false => some under
  | false, true => some (under + 1)
  | true, true =>
    let twice := 2 * s.value * scale
    let middle := (2 * under + 1) * step
    if twice < middle || (twice == middle && under % 2 == 0) then some under else some (under + 1)

def Scaled.strip : (fuel : Nat) → Scaled → Scaled
  | 0, d => d
  | fuel + 1, d =>
    if d.digits != 0 && d.digits % 10 == 0 then strip fuel ⟨d.digits / 10, d.exponent + 1⟩ else d

/-- The shortest decimal that reads back as a positive double. Seventeen digits always do. -/
def shortest (b : Binary) : Scaled :=
  let s := Span.ofBinary b
  let point := s.point
  let grid (count : Nat) : Option Scaled :=
    let exponent := point - (count : Int) - 1
    (s.onGrid exponent).map (⟨·, exponent⟩)
  match (List.range 17).findSome? grid with
  | some d => Scaled.strip 20 d
  | none => ⟨0, 0⟩

end CodeGateway.Decimal
