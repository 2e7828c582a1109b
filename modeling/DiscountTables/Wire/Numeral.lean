import DiscountTables.Number.Decimal

/-!
Numbers in JSON texts. One with a fraction or an exponent is computed in rounded steps, so it need not be
the nearest to what is written; it is shown with the fewest digits that have it as their nearest.
-/

namespace DiscountTables.Wire

open Number

def appendDigits (n : Nat) : List Nat → Nat × Nat
  | [] => (n, 0)
  | d :: rest =>
    if 10 * n + d < 1 <<< 64 then appendDigits (10 * n + d) rest else (n, rest.length + 1)

def greatestPower : Nat := 308

def nearestPower (k : Nat) : Nat := ((Double.ofNat (Decimal.powerOfTen k)).toInt?.getD 0).toNat

def divideByPower : Nat → Nat → Double → Double
  | 0, _, x => x
  | steps + 1, k, x =>
    if k ≤ greatestPower then x.divide (nearestPower k)
    else divideByPower steps (k - greatestPower) (x.divide (nearestPower greatestPower))

/-- A number of at most 64 bits times a power of ten, each step rounded. After three divisions by the
greatest power nothing is left of it. -/
def scaled (n : Nat) (exponent : Int) : Double :=
  if n = 0 then .zero false
  else if exponent < 0 then divideByPower 3 exponent.natAbs (.ofNat n)
  else if greatestPower < exponent then .infinite false
  else (Double.ofNat n).scale (nearestPower exponent.natAbs)

/-- The number with these digits before and after the point. Digits beyond 64 bits do not count, but the
places of those before the point do. -/
def ofDigits (whole fraction : List Nat) (exponent : Int) : Double :=
  let (n, skipped) := appendDigits 0 whole
  let (n, dropped) := appendDigits n fraction
  scaled n (exponent + skipped - (fraction.length - dropped : Nat))

def isPositional (d : Decimal) : Bool := d.digits == 0 || (-5 ≤ d.leading && d.leading < 16)

def numberText : Double → String
  | .finite negative m e =>
    let d := shortest .even m e
    (if negative then "-" else "") ++ (if isPositional d then d.positionalWithPoint else d.scientific)
  | _ => "null"

end DiscountTables.Wire
