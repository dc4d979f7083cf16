namespace PegParser.Double

-- The least number that rounds to no finite double.
def bound : Nat :=
  Nat.pow 2 1024 - Nat.pow 2 970

def round (n : Nat) : Nat :=
  let unit := Nat.pow 2 (n.log2 - 52)
  let quotient := n / unit
  let rest := 2 * (n % unit)
  if unit < rest || (rest == unit && quotient % 2 == 1) then (quotient + 1) * unit
  else quotient * unit

def isFinite (mantissa : Nat) (exponent : Int) : Bool :=
  let width := (Nat.toDigits 10 mantissa).length
  if mantissa == 0 then true
  else if exponent + width ≤ 0 then true
  else if exponent + width > 310 then false
  else
    match exponent with
    | .ofNat e => mantissa * Nat.pow 10 e < bound
    | .negSucc e => mantissa < bound * Nat.pow 10 (e + 1)

def isFiniteProduct (n : Nat) (exponent : Int) : Bool :=
  if n == 0 || exponent ≤ 0 then true
  else if exponent > 308 then false
  else round n * round (Nat.pow 10 exponent.toNat) < bound

end PegParser.Double
