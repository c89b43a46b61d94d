import CodeGateway.Decimal.Layout

/-!
Doubles with a set number of places after the point. The value written is the exact value of the
double, rounded to the nearest such decimal; an exact half goes to the even neighbour.
-/

namespace CodeGateway.Decimal

/-- The quotient rounded to the nearest whole number, an exact half to the even one. -/
def roundHalfEven (num den : Nat) : Nat :=
  let quotient := num / den
  let twice := 2 * (num % den)
  if twice < den || (twice == den && quotient % 2 == 0) then quotient else quotient + 1

def placesText (places units : Nat) : List Char :=
  let fraction := digitText (units % Nat.pow 10 places)
  digitText (units / Nat.pow 10 places) ++
    (if places == 0 then [] else '.' :: List.replicate (places - fraction.length) '0' ++ fraction)

/-- A double with `places` places. The sign of `-0.0` and of what is rounded to it is kept. -/
def fixedText (places : Nat) (x : Float) : List Char :=
  if x.isNaN then ['N', 'a', 'N']
  else
    let size :=
      if x.isInf then ['i', 'n', 'f']
      else
        let (num, den) := (Binary.ofFloat x).fraction
        placesText places (roundHalfEven (num * Nat.pow 10 places) den)
    if isSigned x then '-' :: size else size

end CodeGateway.Decimal
