namespace CodeGateway.Decimal

structure Binary where
  mantissa : Nat
  exponent : Int
  deriving DecidableEq

/-- The size of a finite double, from its bits. A zero in the exponent's place marks the numbers
    below `2 ^ 52 * 2 ^ -1074`, which all share one exponent. -/
def Binary.ofBits (bits : Nat) : Binary :=
  let fraction := bits % 0x10000000000000
  match bits / 0x10000000000000 % 2048 with
  | 0 => ⟨fraction, -1074⟩
  | scale + 1 => ⟨0x10000000000000 + fraction, (scale : Int) - 1074⟩

def Binary.ofFloat (x : Float) : Binary :=
  Binary.ofBits x.toBits.toNat

def isSigned (x : Float) : Bool :=
  0x8000000000000000 ≤ x.toBits.toNat

def Binary.fraction (b : Binary) : Nat × Nat :=
  (b.mantissa * Nat.pow 2 b.exponent.toNat, Nat.pow 2 (-b.exponent).toNat)

end CodeGateway.Decimal
