import DiscountTables.Compilation
import DiscountTables.Document.Basic
import DiscountTables.Validation

namespace DiscountTables

def Sheet.declaredRuleSet (s : Sheet) : String := s.trimmed 0 1

def Workbook.ruleSet (w : Workbook) : Except ValidationError String :=
  match w.ruleSheets with
  | [] => .error .noRuleSheets
  | first :: _ =>
    if first.declaredRuleSet = "" then .error (.blankRuleSet first.name)
    else .ok first.declaredRuleSet

def Workbook.strays (w : Workbook) : List Sheet :=
  match w.ruleSheets with
  | [] => []
  | first :: rest => rest.filter fun s => s.declaredRuleSet != first.declaredRuleSet

inductive LoadError where
  | workbook (e : WorkbookError)
  | validation (e : ValidationError)
  | compile (e : CompileError)
  deriving DecidableEq

def LoadError.message : LoadError → String
  | workbook e => e.message
  | validation e => e.message
  | compile e => e.message

inductive Notice where
  | stray (sheet declared ruleSet : String)
  | diagnostic (d : Diagnostic)
  deriving DecidableEq

def Notice.text : Notice → String
  | stray sheet declared ruleSet =>
    "rule sheet declares a different namespace; using the first: sheet=" ++ sheet ++ " declared=" ++
      declared ++ " namespace=" ++ ruleSet
  | diagnostic d => d.text

namespace Workbook

def ruleSetNotices (w : Workbook) : List Notice :=
  match w.ruleSet with
  | .ok ruleSet => w.strays.map fun s => .stray s.name s.declaredRuleSet ruleSet
  | .error _ => []

def load (w : Workbook) (versionTag : String) : Except LoadError RuleBase := do
  w.validate.mapError .validation
  let ruleSet ← w.ruleSet.mapError .validation
  (w.compile.ruleBase ruleSet versionTag).mapError .compile

def loadNotices (w : Workbook) : List Notice :=
  match w.validate, w.ruleSet with
  | .ok (), .ok _ => w.ruleSetNotices ++ w.compile.diagnostics.map .diagnostic
  | _, _ => []

end Workbook

namespace Document

def load (d : Document) (versionTag : String) : Except LoadError RuleBase := do
  let w ← d.decode.mapError .workbook
  w.load versionTag

def loadNotices (d : Document) : List Notice :=
  match d.decode with
  | .ok w => w.loadNotices
  | .error _ => []

end Document

end DiscountTables
