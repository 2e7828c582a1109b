import DiscountTables.Number.Decimal
import DiscountTables.Toml.Value

namespace DiscountTables.Toml

open Number Text

def underscoredDigits (isDigit : Char → Bool) : Reader (List Char)
  | [] => none
  | c :: rest => if isDigit c then some (go c rest) else none
where
  go (c : Char) : List Char → List Char × List Char
    | '_' :: d :: rest =>
      if isDigit d then
        let (ds, rest) := go d rest
        (c :: ds, rest)
      else ([c], '_' :: d :: rest)
    | d :: rest =>
      if isDigit d then
        let (ds, rest) := go d rest
        (c :: ds, rest)
      else ([c], d :: rest)
    | [] => ([c], [])

def wholeDigits : Reader (List Char)
  | '0' :: rest => some (['0'], rest)
  | s => underscoredDigits isAsciiDigit s

def fits64 (n : Int) : Bool := Double.leastInt64 ≤ n && n ≤ Double.greatestInt64

def numeralValue (base : Nat) (digits : List Char) : Int :=
  (digitsValue base (digits.filterMap hexDigit?) : Nat)

def boundedInteger (n : Int) (rest : List Char) : Option (Value × List Char) :=
  if fits64 n then some (.integer n, rest) else none

def prefixedInteger (base : Nat) (isDigit : Char → Bool) : Reader Value := fun s => do
  let (digits, rest) ← underscoredDigits isDigit s
  boundedInteger (numeralValue base digits) rest

def fractionPart : Reader (List Char)
  | '.' :: s => do
    let (digits, rest) ← underscoredDigits isAsciiDigit s
    return ('.' :: digits, rest)
  | s => some ([], s)

def exponentPart : Reader (List Char)
  | e :: s =>
    if e = 'e' ∨ e = 'E' then do
      let (sg, s) := sign s
      let (digits, rest) ← underscoredDigits isAsciiDigit s
      return ('e' :: sg.toList ++ digits, rest)
    else some ([], e :: s)
  | [] => some ([], [])

def decimalNumber : Reader Value := fun s => do
  let (sg, s) := sign s
  let (whole, rest) ← wholeDigits s
  let (fraction, rest) ← fractionPart rest
  let (exponent, rest) ← exponentPart rest
  if fraction.isEmpty && exponent.isEmpty then
    boundedInteger (Double.signed (sg == some '-') (numeralValue 10 whole).natAbs) rest
  else
    let x ← readDouble? (String.ofList (sg.toList ++ whole ++ fraction ++ exponent))
    if x = .infinite false then none else return (.number x, rest)

def specialNumber : Reader Value := fun s =>
  let (sg, s) := sign s
  let negative := sg == some '-'
  match s with
  | 'i' :: 'n' :: 'f' :: rest => some (.number (.infinite negative), rest)
  | 'n' :: 'a' :: 'n' :: rest => some (.number .nan, rest)
  | _ => none

def scalar : Reader Value := fun s =>
  if startsDatetime s then (datetime s).map fun (text, rest) => (.datetime text, rest)
  else
    match s with
    | 't' :: 'r' :: 'u' :: 'e' :: rest => some (.boolean true, rest)
    | 'f' :: 'a' :: 'l' :: 's' :: 'e' :: rest => some (.boolean false, rest)
    | '0' :: 'x' :: rest => prefixedInteger 16 (fun c => (hexDigit? c).isSome) rest
    | '0' :: 'o' :: rest => prefixedInteger 8 (fun c => '0' ≤ c && c ≤ '7') rest
    | '0' :: 'b' :: rest => prefixedInteger 2 (fun c => c == '0' || c == '1') rest
    | _ => (specialNumber s).or (decimalNumber s)

end DiscountTables.Toml
