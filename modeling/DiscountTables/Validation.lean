import DiscountTables.Sheet.Basic
import DiscountTables.Unicode.Category

/-!
Checking the lookup columns of rule sheets. Every data row must hold a code of the right form in
each of the columns 1 to 5; blanks around a code do not count.
-/

namespace DiscountTables

open Sheet Unicode

inductive CodeForm where
  | capitals (least most : Nat)
  | digits (least most : Nat)
  deriving DecidableEq, Repr

def isCapital (c : Char) : Bool := 'A' ≤ c && c ≤ 'Z'

def CodeForm.accepts (form : CodeForm) (code : String) : Bool :=
  let s := code.toList
  match form with
  | .capitals least most => least ≤ s.length && s.length ≤ most && s.all isCapital
  | .digits least most => least ≤ s.length && s.length ≤ most && s.all isDecimalDigit

def CodeForm.pattern : CodeForm → String
  | .capitals least most => "^[A-Z]" ++ counts least most ++ "$"
  | .digits least most => "^\\d" ++ counts least most ++ "$"
where
  counts (least most : Nat) : String :=
    "\x7b" ++ toString least ++ (if least = most then "" else "," ++ toString most) ++ "\x7d"

structure ColumnRule where
  column : Nat
  form : CodeForm
  message : String
  deriving DecidableEq, Repr

def columnRules : List ColumnRule := [
  ⟨1, .capitals 2 2, "Country code must be 2-letter"⟩,
  ⟨2, .capitals 2 3, "State code must be 2 or 3-letter"⟩,
  ⟨3, .capitals 3 3, "City code must be 3-letter"⟩,
  ⟨4, .capitals 3 3, "Loyalty code must be 3-letter"⟩,
  ⟨5, .digits 1 2, "Loyalty period must be 1 to 2 digits"⟩]

/-- A data cell that has not the form of its column. Rows are counted from one, columns from zero. -/
structure CellViolation where
  sheet : String
  rowNumber : Nat
  column : Nat
  message : String
  value : String
  deriving DecidableEq, Repr

def CellViolation.text (v : CellViolation) : String :=
  "Sheet " ++ v.sheet ++ " - Row " ++ toString v.rowNumber ++ " Col " ++ columnName v.column ++ ": " ++
    v.message ++ " [\"" ++ v.value ++ "\"]"

def ColumnRule.check? (rule : ColumnRule) (s : Sheet) (row : Nat) : Option CellViolation :=
  let value := s.trimmed row rule.column
  if rule.form.accepts value then none
  else some ⟨s.name, row + 1, rule.column, rule.message, value⟩

def Sheet.violations (s : Sheet) : List CellViolation :=
  s.dataRows.flatMap fun row => columnRules.filterMap fun rule => rule.check? s row

def Workbook.violations (w : Workbook) : List CellViolation := w.ruleSheets.flatMap Sheet.violations

inductive ValidationError where
  | cells (violations : List CellViolation)
  | noRuleSheets
  | blankRuleSet (sheet : String)
  deriving DecidableEq, Repr

def ValidationError.message : ValidationError → String
  | cells violations => "validation errors:\n" ++ String.join (violations.map fun v => v.text ++ "\n")
  | noRuleSheets => "no rule sheets with a RuleSet header found"
  | blankRuleSet sheet => "RuleSet value blank in sheet '" ++ sheet ++ "'"

def Workbook.validate (w : Workbook) : Except ValidationError Unit :=
  match w.violations with
  | [] => .ok ()
  | violations => .error (.cells violations)

end DiscountTables
