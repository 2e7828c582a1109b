import DiscountTables.Calendar
import DiscountTables.Number.Decimal

namespace DiscountTables

inductive WorkbookError where
  | unknownFormat
  | unknownErrorValue (value : String)
  deriving DecidableEq, Repr

def WorkbookError.reason : WorkbookError → String
  | unknownFormat => "Cannot detect file format"
  | unknownErrorValue value => "Xlsx error: Unsupported cell error value '" ++ value ++ "'"

def WorkbookError.message (e : WorkbookError) : String := "unreadable workbook: " ++ e.reason

namespace Document

open Number Calendar

inductive ErrorValue where
  | divisionByZero
  | notAvailable
  | unknownName
  | emptyIntersection
  | badNumber
  | badReference
  | wrongType
  deriving DecidableEq, Repr

namespace ErrorValue

def text : ErrorValue → String
  | divisionByZero => "#DIV/0!"
  | notAvailable => "#N/A"
  | unknownName => "#NAME?"
  | emptyIntersection => "#NULL!"
  | badNumber => "#NUM!"
  | badReference => "#REF!"
  | wrongType => "#VALUE!"

def all : List ErrorValue :=
  [divisionByZero, notAvailable, unknownName, emptyIntersection, badNumber, badReference, wrongType]

def ofText? (s : String) : Option ErrorValue := all.find? fun e => e.text == s

end ErrorValue

inductive Cell where
  | text (s : String)
  | number (x : Double)
  /-- Days since the epoch of the document. -/
  | date (x : Double)
  | duration (x : Double)
  | boolean (b : Bool)
  | error (e : ErrorValue)
  | isoDate (s : String)
  deriving DecidableEq, Repr

inductive CellKind where
  | sharedText
  | inlineText
  | number
  | formulaText
  | date
  | duration
  | boolean
  | error
  | isoDate
  deriving DecidableEq, Repr

/-- A stored cell. What is to be a number and reads as none is text, and so is the text of a formula
unless it reads as a number. -/
def Cell.ofStored (kind : CellKind) (value : String) : Except WorkbookError Cell :=
  let numeric := fun (make : Double → Cell) => ((readDouble? value).map make).getD (.text value)
  match kind with
  | .sharedText | .inlineText => .ok (.text value)
  | .number | .formulaText => .ok (numeric .number)
  | .date => .ok (numeric .date)
  | .duration => .ok (numeric .duration)
  | .boolean => .ok (.boolean (value != "0"))
  | .error =>
    match ErrorValue.ofText? value with
    | some e => .ok (.error e)
    | none => .error (.unknownErrorValue value)
  | .isoDate => .ok (.isoDate value)

def millisPerDay : Nat := 86400000

def days1904 : Nat := 1462

/-- The sixtieth day of 1900, which there never was; smaller numbers count one day less. -/
def missingDay : Nat := 60

/-- Milliseconds from the start of 1899-12-30 to the time that a number of days stands for. They are held within
64 bits; the least 64-bit integer, from about -1.0675e11 days down, is beyond all durations, and a program stops
at it, while here it counts like the others. -/
def dateMillis (from1904 : Bool) (x : Double) : Int :=
  let x := if from1904 then x.add (.ofNat days1904) else x
  let x := if x.atLeast missingDay then x else x.add (.ofNat 1)
  (x.scale millisPerDay).round

def epochDay : Int := -25569

def leastYear : Int := -262143
def greatestYear : Int := 262142

def dateText? (millis : Int) : Option String :=
  let date := Date.ofDays (millis / millisPerDay + epochDay)
  let timeOfDay := (millis % millisPerDay).toNat
  if date.year < leastYear ∨ greatestYear < date.year then none
  else if timeOfDay = 0 then some date.text
  else some (date.text ++ " " ++ clockText (timeOfDay / 1000))

/-- Two digits; a sign counts as one of the two. -/
def twoDigits (n : Int) : String :=
  if n < 0 then "-" ++ padded 1 n.natAbs else padded 2 n.natAbs

/-- A number of seconds as hours, minutes and seconds, each rounded toward zero with its own sign. -/
def durationText (seconds : Int) : String :=
  toString (seconds.tdiv 3600) ++ ":" ++ twoDigits ((seconds.tdiv 60).tmod 60) ++ ":" ++
    twoDigits (seconds.tmod 60)

/-- The whole seconds of a number of days. As in `dateMillis`, from about -1.0675e11 days down a program stops, and
here there are the seconds of the least 64-bit integer. -/
def durationSeconds (x : Double) : Int := (x.scale millisPerDay).round.tdiv 1000

def integerLimit : Nat := 1000000000000000

def numberText (x : Double) : String :=
  match x.toInt? with
  | some n => if n.natAbs < integerLimit then toString n else x.text
  | none => x.text

def Cell.display (from1904 : Bool) : Cell → String
  | .text s | .isoDate s => s
  | .error e => e.text
  | .number x => numberText x
  | .date x => (dateText? (dateMillis from1904 x)).getD x.text
  | .duration x => durationText (durationSeconds x)
  | .boolean b => if b then "TRUE" else "FALSE"

end Document

end DiscountTables
