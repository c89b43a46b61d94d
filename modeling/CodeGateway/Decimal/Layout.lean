import CodeGateway.Decimal.Shortest

namespace CodeGateway.Decimal

def digitText (n : Nat) : List Char :=
  Nat.toDigits 10 n

/-- Digits and an exponent, as text: `point` digits stand before the decimal point. -/
def Scaled.layout (d : Scaled) : List Char :=
  let digits := digitText d.digits
  let point := (digits.length : Int) + d.exponent
  if 0 ≤ d.exponent && point ≤ 16 then
    digits ++ List.replicate d.exponent.toNat '0' ++ ['.', '0']
  else if 0 < point && point ≤ 16 then
    digits.take point.toNat ++ '.' :: digits.drop point.toNat
  else if -5 < point && point ≤ 0 then
    ['0', '.'] ++ List.replicate (-point).toNat '0' ++ digits
  else
    let lead := match digits with
      | [] => []
      | [digit] => [digit]
      | digit :: more => digit :: '.' :: more
    let power := point - 1
    let sign := if power < 0 then '-' else '+'
    lead ++ 'e' :: sign :: digitText power.natAbs

def floatText (x : Float) : List Char :=
  let b := Binary.ofFloat x
  let size := if b.mantissa == 0 then ['0', '.', '0'] else (shortest b).layout
  if isSigned x then '-' :: size else size

end CodeGateway.Decimal
