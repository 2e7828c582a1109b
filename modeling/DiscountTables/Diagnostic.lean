import DiscountTables.Pattern.Basic
import DiscountTables.Request
import DiscountTables.Sheet.Basic
import DiscountTables.Template.Basic

namespace DiscountTables

inductive Defect where
  | missingHeader
  | noRoomBelowHeader
  | noTemplate (kind : String)
  | unknownKind (kind : String)
  | badTemplate (error : TemplateError)
  | noConditions
  | noActions
  | badPattern (field : RequestField) (error : Pattern.Invalid)
  deriving DecidableEq

inductive Oddity where
  | noEffects
  | repeatsRow (row : Nat)
  | noDataRows
  deriving DecidableEq, Repr

inductive Remark where
  | defect (d : Defect)
  | oddity (o : Oddity)
  deriving DecidableEq

def firstDataRowNumber : String := toString (Sheet.firstDataRow + 1)

def Defect.message : Defect → String
  | missingHeader => "missing RuleTable header above row " ++ firstDataRowNumber
  | noRoomBelowHeader =>
    "RuleTable header leaves no room for the kind and template rows before row " ++ firstDataRowNumber
  | noTemplate kind => kind ++ " column has no template"
  | unknownKind kind => "unknown column kind '" ++ kind ++ "'"
  | badTemplate error => error.message
  | noConditions => "rule table has no CONDITION columns"
  | noActions => "rule table has no ACTION columns"
  | badPattern field error => "invalid pattern for " ++ field.name ++ ": " ++ error.message

def Oddity.message : Oddity → String
  | noEffects => "row has no action values and sets nothing"
  | repeatsRow row =>
    "conditions repeat row " ++ toString (row + 1) ++ "; this row overwrites it when both fire"
  | noDataRows => "rule table has no data rows"

def Remark.isDefect : Remark → Bool
  | defect _ => true
  | oddity _ => false

def Remark.severity : Remark → String
  | defect _ => "error"
  | oddity _ => "warning"

def Remark.message : Remark → String
  | defect d => d.message
  | oddity o => o.message

/-- A remark on a sheet, perhaps on a row and a column of it. Both are counted from zero. -/
structure Diagnostic where
  sheet : String
  row : Option Nat
  column : Option Nat
  remark : Remark
  deriving DecidableEq

namespace Diagnostic

def isError (d : Diagnostic) : Bool := d.remark.isDefect

def message (d : Diagnostic) : String := d.remark.message

def text (d : Diagnostic) : String :=
  d.remark.severity ++ ": sheet '" ++ d.sheet ++ "'" ++
    (d.row.elim "" fun r => " row " ++ toString (r + 1)) ++
    (d.column.elim "" fun c => " col " ++ Sheet.columnName c) ++ ": " ++ d.message

end Diagnostic

end DiscountTables
