/-!
Numbers of the binary64 format, as exact values.

A finite number is a significand times a power of two. Every operation computes the exact result as a
quotient of natural numbers and then takes the nearest number of the format.
-/

namespace DiscountTables.Number

inductive Double where
  | nan
  | infinite (negative : Bool)
  | finite (negative : Bool) (significand : Nat) (exponent : Int)
  deriving DecidableEq, Repr

namespace Double

def leastExponent : Int := -1074
def greatestExponent : Int := 971

def zero (negative : Bool) : Double := .finite negative 0 leastExponent

def significandLimit : Nat := 1 <<< 53

def inUnits (num den : Nat) (e : Int) : Nat × Nat :=
  if 0 ≤ e then (num, den <<< e.toNat) else (num <<< (-e).toNat, den)

def roundHalfEven (num den : Nat) : Nat :=
  let q := num / den
  let r := num % den
  if 2 * r < den || (2 * r == den && q % 2 == 0) then q else q + 1

/-- The number of the format nearest to `num / den`, where `den` is positive. -/
def nearest (negative : Bool) (num den : Nat) : Double :=
  if num = 0 then zero negative
  else
    let guess := max ((num.log2 : Int) - den.log2 - 53) leastExponent
    let (n, d) := inUnits num den guess
    let e := if n / d < significandLimit then guess else guess + 1
    let (n, d) := inUnits num den e
    let q := roundHalfEven n d
    let (q, e) := if q < significandLimit then (q, e) else (q / 2, e + 1)
    if greatestExponent < e then .infinite negative else .finite negative q e

def quotient (significand : Nat) (exponent : Int) : Nat × Nat :=
  if 0 ≤ exponent then (significand <<< exponent.toNat, 1)
  else (significand, 1 <<< (-exponent).toNat)

def ofNat (n : Nat) : Double := nearest false n 1

def signed (negative : Bool) (n : Nat) : Int := if negative then -n else n

def add : Double → Double → Double
  | .nan, _ | _, .nan => .nan
  | .infinite a, .infinite b => if a = b then .infinite a else .nan
  | .infinite a, .finite .. => .infinite a
  | .finite .., .infinite b => .infinite b
  | .finite s m e, .finite t n f =>
    let least := min e f
    let sum := signed s (m <<< (e - least).toNat) + signed t (n <<< (f - least).toNat)
    let (num, den) := quotient sum.natAbs least
    if sum = 0 then zero (s && t) else nearest (decide (sum < 0)) num den

def scale (k : Nat) : Double → Double
  | .nan => .nan
  | .infinite s => .infinite s
  | .finite s m e =>
    let (num, den) := quotient (m * k) e
    nearest s num den

def divide (k : Nat) : Double → Double
  | .nan => .nan
  | .infinite s => .infinite s
  | .finite s m e =>
    let (num, den) := quotient m e
    nearest s num (den * k)

def atLeast (k : Nat) : Double → Bool
  | .nan => false
  | .infinite s => !s
  | .finite s m e =>
    let (num, den) := quotient m e
    if s then k == 0 && num == 0 else k * den ≤ num

def toInt? : Double → Option Int
  | .finite s m e =>
    let (num, den) := quotient m e
    if num % den = 0 then some (signed s (num / den)) else none
  | _ => none

def leastInt64 : Int := -9223372036854775808
def greatestInt64 : Int := 9223372036854775807

/-- The nearest whole number, halves away from zero, held within 64 bits; zero for not a number. -/
def round : Double → Int
  | .nan => 0
  | .infinite s => if s then leastInt64 else greatestInt64
  | .finite s m e =>
    let (num, den) := quotient m e
    max leastInt64 (min greatestInt64 (signed s ((2 * num + den) / (2 * den))))

end Double

end DiscountTables.Number
