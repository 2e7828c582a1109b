import DiscountTables.Number.Double
import DiscountTables.Text.Basic

namespace DiscountTables.Number

open Text

structure Decimal where
  digits : Nat
  exponent : Int
  deriving DecidableEq, Repr

namespace Decimal

def powerOfTen (n : Nat) : Nat := Nat.pow 10 n

def quotient (d : Decimal) : Nat × Nat :=
  if 0 ≤ d.exponent then (d.digits * powerOfTen d.exponent.toNat, 1)
  else (d.digits, powerOfTen (-d.exponent).toNat)

def digitCount (n : Nat) : Nat := (Nat.toDigits 10 n).length

def toDouble (negative : Bool) (d : Decimal) : Double :=
  let magnitude := digitCount d.digits + d.exponent
  if d.digits = 0 ∨ magnitude < -330 then Double.zero negative
  else if 310 < magnitude then .infinite negative
  else
    let (num, den) := d.quotient
    Double.nearest negative num den

def positional (d : Decimal) : String :=
  let digits := Nat.toDigits 10 d.digits
  if 0 ≤ d.exponent then
    String.ofList (digits ++ List.replicate d.exponent.toNat '0')
  else
    let places := (-d.exponent).toNat
    let padded := List.replicate (places + 1 - digits.length) '0' ++ digits
    String.ofList (padded.take (padded.length - places) ++ '.' :: padded.drop (padded.length - places))

def positionalWithPoint (d : Decimal) : String :=
  if 0 ≤ d.exponent then d.positional ++ ".0" else d.positional

def leading (d : Decimal) : Int := d.exponent + digitCount d.digits - 1

def scientific (d : Decimal) : String :=
  let mantissa := match Nat.toDigits 10 d.digits with
    | c :: [] => [c]
    | c :: rest => c :: '.' :: rest
    | [] => []
  String.ofList mantissa ++ "e" ++ (if d.leading < 0 then "-" else "+") ++ toString d.leading.natAbs

def withoutTrailingZeros : Nat → Decimal → Decimal
  | 0, d => d
  | fuel + 1, d =>
    if d.digits % 10 = 0 then withoutTrailingZeros fuel ⟨d.digits / 10, d.exponent + 1⟩ else d

end Decimal

def takeDigits (s : List Char) : List Nat × List Char :=
  ((s.takeWhile isAsciiDigit).filterMap hexDigit?, s.dropWhile isAsciiDigit)

def readExponent? : List Char → Option Int
  | [] => some 0
  | e :: rest =>
    if e = 'e' ∨ e = 'E' then
      let (negative, rest) := match rest with
        | '-' :: r => (true, r)
        | '+' :: r => (false, r)
        | r => (false, r)
      match takeDigits rest with
      | ([], _) => none
      | (digits, []) => some (Double.signed negative (digitsValue 10 digits))
      | (_, _ :: _) => none
    else none

def readUnsigned? (s : List Char) : Option Decimal :=
  let (whole, rest) := takeDigits s
  let (fraction, rest) := match rest with
    | '.' :: r => takeDigits r
    | r => ([], r)
  if whole ++ fraction = [] then none
  else (readExponent? rest).map fun e => ⟨digitsValue 10 (whole ++ fraction), e - fraction.length⟩

def readDouble? (text : String) : Option Double :=
  let (negative, s) := match text.toList with
    | '-' :: r => (true, r)
    | '+' :: r => (false, r)
    | r => (false, r)
  match String.ofList (foldCase s) with
  | "inf" | "infinity" => some (.infinite negative)
  | "nan" => some .nan
  | _ => (readUnsigned? s).map (Decimal.toDouble negative)

def leadingExponent (num den : Nat) : Int :=
  if den ≤ num then (Decimal.digitCount (num / den) : Int) - 1
  else -((List.range 400).find? fun j => den ≤ num * Decimal.powerOfTen j).getD 400

/-- The bounds within which every value has this number as its nearest, in quarters of a unit in the
last place. Below a power of two the numbers lie twice as close. -/
def quarterBounds (significand : Nat) (exponent : Int) : Nat × Nat :=
  let narrow := 2 * significand == Double.significandLimit && Double.leastExponent < exponent
  (4 * significand - (if narrow then 1 else 2), 4 * significand + 2)

/-- Whether a decimal has the given number as its nearest. An end of the interval belongs to it when
the significand is even. -/
def readsAs (significand : Nat) (exponent : Int) (d : Decimal) : Bool :=
  let (num, den) := d.quotient
  let (low, high) := quarterBounds significand exponent
  let (lowNum, lowDen) := Double.quotient low (exponent - 2)
  let (highNum, highDen) := Double.quotient high (exponent - 2)
  if significand % 2 == 0 then lowNum * den ≤ num * lowDen && num * highDen ≤ highNum * den
  else lowNum * den < num * lowDen && num * highDen < highNum * den

inductive Tie where
  | up
  | even
  deriving DecidableEq, Repr

def Tie.isBelow (tie : Tie) (below part whole : Nat) : Bool :=
  2 * part < whole || (tie == .even && 2 * part == whole && below % 2 == 0)

def withDigits? (tie : Tie) (significand : Nat) (exponent : Int) (count : Nat) : Option Decimal :=
  let (num, den) := Double.quotient significand exponent
  let place := leadingExponent num den - count + 1
  let (n, d) :=
    if 0 ≤ place then (num, den * Decimal.powerOfTen place.toNat)
    else (num * Decimal.powerOfTen (-place).toNat, den)
  let below : Decimal := ⟨n / d, place⟩
  let above : Decimal := ⟨n / d + 1, place⟩
  match readsAs significand exponent below, readsAs significand exponent above with
  | true, true => some (if tie.isBelow (n / d) (n % d) d then below else above)
  | true, false => some below
  | false, true => some above
  | false, false => none

def shortest (tie : Tie) (significand : Nat) (exponent : Int) : Decimal :=
  if significand = 0 then ⟨0, 0⟩
  else (((List.range 17).findSome? fun k => withDigits? tie significand exponent (k + 1)).getD
    ⟨0, 0⟩).withoutTrailingZeros 20

def Double.text : Double → String
  | .nan => "NaN"
  | .infinite negative => if negative then "-inf" else "inf"
  | .finite negative m e => (if negative then "-" else "") ++ (shortest .up m e).positional

def Double.textWithPoint : Double → String
  | .finite negative m e => (if negative then "-" else "") ++ (shortest .up m e).positionalWithPoint
  | x => x.text

end DiscountTables.Number
