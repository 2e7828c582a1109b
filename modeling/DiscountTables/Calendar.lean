namespace DiscountTables.Calendar

/-- A point in time, counted from the start of 1970, UTC. Every second is followed by room for a leap
second, so that it counts twice a billion nanoseconds. -/
abbrev Instant := Int

def nanosPerSecond : Nat := 1000000000

namespace Instant

def ofParts (seconds : Int) (nanos : Nat) : Instant := seconds * (2 * nanosPerSecond : Nat) + nanos

def seconds (t : Instant) : Int := t / (2 * nanosPerSecond : Nat)

def nanos (t : Instant) : Nat := (t % (2 * nanosPerSecond : Nat)).toNat

def withoutLeap (t : Instant) : Instant :=
  if t.nanos < nanosPerSecond then t else ofParts (t.seconds + 1) (t.nanos - nanosPerSecond)

end Instant

structure Date where
  year : Int
  month : Nat
  day : Nat
  deriving DecidableEq, Repr

/-- The date a number of days after 1970-01-01. Years are counted from March, so that the leap day
comes last, in cycles of 400 years of 146097 days. -/
def Date.ofDays (days : Int) : Date :=
  let fromMarch := days + 719468
  let cycle := fromMarch / 146097
  let dayOfCycle := (fromMarch % 146097).toNat
  let yearOfCycle :=
    (dayOfCycle - dayOfCycle / 1460 + dayOfCycle / 36524 - dayOfCycle / 146096) / 365
  let dayOfYear := dayOfCycle - (365 * yearOfCycle + yearOfCycle / 4 - yearOfCycle / 100)
  let shifted := (5 * dayOfYear + 2) / 153
  let day := dayOfYear - (153 * shifted + 2) / 5 + 1
  let month := if shifted < 10 then shifted + 3 else shifted - 9
  let year := (yearOfCycle : Int) + cycle * 400 + if month ≤ 2 then 1 else 0
  ⟨year, month, day⟩

def padded (width n : Nat) : String :=
  let digits := Nat.toDigits 10 n
  String.ofList (List.replicate (width - digits.length) '0' ++ digits)

def yearText (year : Int) : String :=
  if year < 0 then "-" ++ padded 4 year.natAbs
  else if year ≤ 9999 then padded 4 year.natAbs
  else "+" ++ padded 4 year.natAbs

def Date.text (d : Date) : String :=
  yearText d.year ++ "-" ++ padded 2 d.month ++ "-" ++ padded 2 d.day

def clockText (seconds : Nat) : String :=
  padded 2 (seconds / 3600) ++ ":" ++ padded 2 (seconds / 60 % 60) ++ ":" ++ padded 2 (seconds % 60)

/-- A point in time to the millisecond below, as in `2024-05-01T12:00:00.000Z`. A leap second is the
second 60 of its minute. -/
def timestamp (t : Instant) : String :=
  let ofDay := (t.seconds % 86400).toNat
  let leap := t.nanos / nanosPerSecond
  (Date.ofDays (t.seconds / 86400)).text ++ "T" ++ padded 2 (ofDay / 3600) ++ ":" ++
    padded 2 (ofDay / 60 % 60) ++ ":" ++ padded 2 (ofDay % 60 + leap) ++ "." ++
    padded 3 (t.nanos % nanosPerSecond / 1000000) ++ "Z"

end DiscountTables.Calendar
