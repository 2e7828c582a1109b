import DiscountTables.Text.Basic

/-!
Sheets as grids of text, and which of them hold rules.

Rows and columns are counted from zero. A rule sheet has `RuleSet` in its first cell; its first nine
rows are the header, and every row after them that holds any text is a data row.
-/

namespace DiscountTables

open Text

structure Sheet where
  name : String
  rows : List (List String)
  deriving DecidableEq, Repr

structure Workbook where
  sheets : List Sheet
  deriving DecidableEq, Repr

namespace Sheet

def ruleSetMarker : String := "RuleSet"

def firstDataRow : Nat := 9

def cell (s : Sheet) (row column : Nat) : String :=
  match s.rows[row]? with
  | none => ""
  | some cells => (cells[column]?).getD ""

def trimmed (s : Sheet) (row column : Nat) : String := trim (s.cell row column)

/-- Whether no cell of a row holds any character. A row of blanks is not blank in this sense. -/
def isBlankRow (s : Sheet) (row : Nat) : Bool :=
  match s.rows[row]? with
  | none => true
  | some cells => cells.all (· == "")

def isRuleSheet (s : Sheet) : Bool := eqIgnoringCase (s.trimmed 0 0) ruleSetMarker

def dataRows (s : Sheet) : List Nat :=
  (List.range s.rows.length).filter fun r => firstDataRow ≤ r && !s.isBlankRow r

def columnDigit (n : Nat) : Char := Char.ofNat (65 + n % 26)

/-- The name whose bijective base-26 value, with A for 1 and Z for 26, is `n`, before `tail`. -/
def columnLetters (n : Nat) (tail : List Char) : List Char :=
  if h : n = 0 then tail
  else columnLetters ((n - 1) / 26) (columnDigit (n - 1) :: tail)
termination_by n
decreasing_by omega

def columnName (index : Nat) : String := String.ofList (columnLetters (index + 1) [])

end Sheet

namespace Workbook

def ruleSheets (w : Workbook) : List Sheet := w.sheets.filter Sheet.isRuleSheet

end Workbook

end DiscountTables
