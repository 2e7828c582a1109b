import DiscountTables.Calendar
import DiscountTables.Text.Basic

/-!
TOML dates and times, each shown in one form. One that stands in a document ends where it ends; one that
a string gives must be all of it.
-/

namespace DiscountTables.Toml

open Text

abbrev Reader (α : Type) := List Char → Option (α × List Char)

def sign : List Char → Option Char × List Char
  | '+' :: rest => (some '+', rest)
  | '-' :: rest => (some '-', rest)
  | s => (none, s)

def fixedDigits (count : Nat) : Reader Nat := fun s =>
  let digits := s.take count
  if digits.length = count && digits.all isAsciiDigit then
    some (digitsValue 10 (digits.filterMap hexDigit?), s.drop count)
  else none

def bounded (count least most : Nat) : Reader Nat := fun s => do
  let (n, rest) ← fixedDigits count s
  if least ≤ n && n ≤ most then return (n, rest) else none

def char (c : Char) : Reader Unit
  | [] => none
  | d :: rest => if c = d then some ((), rest) else none

def isLeapYear (year : Nat) : Bool := year % 4 == 0 && (year % 100 != 0 || year % 400 == 0)

def daysInMonth (year month : Nat) : Nat :=
  if month = 2 then (if isLeapYear year then 29 else 28)
  else if [4, 6, 9, 11].contains month then 30 else 31

open Calendar in
def date : Reader String := fun s => do
  let (year, s) ← fixedDigits 4 s
  let ((), s) ← char '-' s
  let (month, s) ← bounded 2 1 12 s
  let ((), s) ← char '-' s
  let (day, s) ← bounded 2 1 (daysInMonth year month) s
  return (padded 4 year ++ "-" ++ padded 2 month ++ "-" ++ padded 2 day, s)

def secondFraction : Reader String
  | '.' :: s =>
    let digits := s.takeWhile isAsciiDigit
    if digits.isEmpty then none
    else
      let kept := ((digits.take 9).reverse.dropWhile (· == '0')).reverse
      some (if kept.isEmpty then "" else String.ofList ('.' :: kept), s.dropWhile isAsciiDigit)
  | s => some ("", s)

structure TimeBounds where
  hour : Nat
  offsetHour : Nat
  offsetMinute : Nat
  deriving DecidableEq, Repr

def TimeBounds.bare : TimeBounds := ⟨23, 23, 59⟩

def TimeBounds.stringed : TimeBounds := ⟨24, 99, 99⟩

open Calendar in
def time (b : TimeBounds) : Reader String := fun s => do
  let (hour, s) ← bounded 2 0 b.hour s
  let ((), s) ← char ':' s
  let (minute, s) ← bounded 2 0 59 s
  let ((), s) ← char ':' s
  let (second, s) ← bounded 2 0 60 s
  let (fraction, s) ← secondFraction s
  return (padded 2 hour ++ ":" ++ padded 2 minute ++ ":" ++ padded 2 second ++ fraction, s)

open Calendar in
def offset (b : TimeBounds) : Reader String := fun s =>
  match s with
  | 'Z' :: rest | 'z' :: rest => some ("Z", rest)
  | _ =>
    match sign s with
    | (some sg, s) => do
      let (hour, s) ← bounded 2 0 b.offsetHour s
      let ((), s) ← char ':' s
      let (minute, s) ← bounded 2 0 b.offsetMinute s
      let total := 60 * hour + minute
      if total ≤ 1440 then
        let shown := if total = 0 then '+' else sg
        return (shown.toString ++ padded 2 (total / 60) ++ ":" ++ padded 2 (total % 60), s)
      else none
    | (none, s) => some ("", s)

def isTimeMark (c : Char) : Bool := c == 'T' || c == 't' || c == ' '

def timeOfDay (b : TimeBounds) (day : String) : Reader String := fun s => do
  let (clock, s) ← time b s
  let (zone, s) ← offset b s
  return (day ++ "T" ++ clock ++ zone, s)

def timeFollows : List Char → Bool
  | t :: s =>
    isTimeMark t && (match bounded 2 0 TimeBounds.bare.hour s with
      | some (_, ':' :: _) => true
      | _ => false)
  | [] => false

def datetime : Reader String := fun s =>
  match date s with
  | some (day, rest) => if timeFollows rest then timeOfDay .bare day rest.tail else some (day, rest)
  | none => time .bare s

/-- As `datetime` within a string. Only a time has a colon after two characters. -/
def stringDatetime : Reader String := fun s =>
  if s[2]? = some ':' then time .stringed s
  else do
    let (day, rest) ← date s
    match rest with
    | t :: rest => if isTimeMark t then timeOfDay .stringed day rest else none
    | [] => return (day, [])

def datetimeText? (text : String) : Option String :=
  match stringDatetime text.toList with
  | some (shown, []) => some shown
  | _ => none

def startsDatetime (s : List Char) : Bool :=
  match fixedDigits 4 s, fixedDigits 2 s with
  | some (_, '-' :: _), _ => true
  | _, some (_, ':' :: _) => true
  | _, _ => false

end DiscountTables.Toml
