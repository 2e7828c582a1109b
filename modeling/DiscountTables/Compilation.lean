import DiscountTables.Diagnostic
import DiscountTables.RuleBase

/-!
From rule sheets to rules.

A rule table starts at the first header row whose first cell begins with `RuleTable`. One row below
stand the kinds of the columns, three rows below their templates, and every data row becomes a rule: a
predicate for each CONDITION cell that is not blank, an effect for each such ACTION cell.
-/

namespace DiscountTables

open Text Template

namespace Sheet

def ruleTableMarker : String := "RuleTable"

def kindsOffset : Nat := 1
def templatesOffset : Nat := 3

def tableName? (cell : String) : Option String :=
  let s := trimChars cell.toList
  if eqIgnoringCase (String.ofList (s.take ruleTableMarker.length)) ruleTableMarker then
    some (String.ofList (trimChars (s.drop ruleTableMarker.length)))
  else none

def headerRow? (s : Sheet) : Option Nat :=
  (List.range' 1 (firstDataRow - 1)).find? fun r => (tableName? (s.cell r 0)).isSome

def withoutBlanks (name : String) : String :=
  String.ofList (name.toList.map fun c => if isBlank c then '_' else c)

def tableName (s : Sheet) (header : Nat) : String :=
  match tableName? (s.cell header 0) with
  | none | some "" => withoutBlanks s.name
  | some name => withoutBlanks name

end Sheet

inductive ColumnRole where
  | condition (field : RequestField) (operator : Operator)
  | action (field : ResponseField)
  deriving DecidableEq, Repr

structure Column where
  index : Nat
  role : ColumnRole
  deriving DecidableEq, Repr

namespace Column

def isCondition (c : Column) : Bool :=
  match c.role with
  | .condition .. => true
  | .action _ => false

def roleOf (kind template : String) : Except Defect ColumnRole :=
  if eqIgnoringCase kind "CONDITION" then
    match ConditionTemplate.read template with
    | .ok t => .ok (.condition t.field t.operator)
    | .error e => .error (.badTemplate e)
  else if eqIgnoringCase kind "ACTION" then
    match ActionTemplate.read template with
    | .ok t => .ok (.action t.field)
    | .error e => .error (.badTemplate e)
  else .error (.unknownKind kind)

end Column

namespace Sheet

def defectAt (s : Sheet) (row : Nat) (column : Option Nat) (d : Defect) : Diagnostic :=
  ⟨s.name, some row, column, .defect d⟩

def oddityAt (s : Sheet) (row : Nat) (o : Oddity) : Diagnostic := ⟨s.name, some row, none, .oddity o⟩

def column? (s : Sheet) (header index : Nat) : Option (Except Diagnostic Column) :=
  let kindsRow := header + kindsOffset
  let templatesRow := header + templatesOffset
  let kind := s.trimmed kindsRow index
  let template := s.trimmed templatesRow index
  if kind = "" then none
  else if template = "" then some (.error (s.defectAt templatesRow index (.noTemplate kind)))
  else
    match Column.roleOf kind template with
    | .ok role => some (.ok ⟨index, role⟩)
    | .error (.unknownKind kind) => some (.error (s.defectAt kindsRow index (.unknownKind kind)))
    | .error d => some (.error (s.defectAt templatesRow index d))

def width (s : Sheet) (header : Nat) : Nat := ((s.rows[header + kindsOffset]?).map List.length).getD 0

def columnReadings (s : Sheet) (header : Nat) : List (Except Diagnostic Column) :=
  (List.range' 1 (s.width header - 1)).filterMap (s.column? header)

def columns (s : Sheet) (header : Nat) : List Column :=
  (s.columnReadings header).filterMap Except.toOption

def columnDefects (s : Sheet) (header : Nat) : List Diagnostic :=
  (s.columnReadings header).filterMap (fun
    | .error d => some d
    | .ok _ => none) ++
  (if (s.columns header).any Column.isCondition then []
    else [s.defectAt (header + kindsOffset) none .noConditions]) ++
  (if (s.columns header).any fun c => !c.isCondition then []
    else [s.defectAt (header + kindsOffset) none .noActions])

def predicate (field : RequestField) (operator : Operator) (value : String) :
    Except Pattern.Invalid Predicate :=
  match operator with
  | .equal => .ok (.equals field value)
  | .notEqual => .ok (.differs field value)
  | .fits => (Pattern.ofCell value).map (.fits field)

def predicateReadings (s : Sheet) (columns : List Column) (row : Nat) :
    List (Except Diagnostic Predicate) :=
  columns.filterMap fun c =>
    match c.role with
    | .action _ => none
    | .condition field operator =>
      let value := s.trimmed row c.index
      if value = "" then none
      else
        match predicate field operator value with
        | .ok p => some (.ok p)
        | .error e => some (.error (s.defectAt row c.index (.badPattern field e)))

def effects (s : Sheet) (columns : List Column) (row : Nat) : List Effect :=
  columns.filterMap fun c =>
    match c.role with
    | .condition .. => none
    | .action field =>
      let value := s.trimmed row c.index
      if value = "" then none else some ⟨field, value⟩

end Sheet

/-- What has been compiled so far. All sheets of a workbook add to the same. -/
structure Compiled where
  diagnostics : List Diagnostic := []
  rules : List RuleDraft := []
  deriving DecidableEq

namespace Compiled

def report (c : Compiled) (ds : List Diagnostic) : Compiled := { c with diagnostics := c.diagnostics ++ ds }

def push (c : Compiled) (rule : RuleDraft) : Compiled := { c with rules := c.rules ++ [rule] }

end Compiled

namespace Sheet

/-- Compiles rows of a table. `seen` holds the conditions of the rows that became rules, with their
rows, the latest first. -/
def compileRows (s : Sheet) (table : String) (columns : List Column) :
    Compiled → List (String × Nat) → List Nat → Compiled
  | c, _, [] => c
  | c, seen, row :: rest =>
    let readings := s.predicateReadings columns row
    match readings.filterMap fun
      | .error d => some d
      | .ok _ => none with
    | d :: ds => s.compileRows table columns (c.report (d :: ds)) seen rest
    | [] =>
      let predicates := readings.filterMap Except.toOption
      let effects := s.effects columns row
      let conditions := Predicate.conjunctionText predicates
      let remarks :=
        (if effects.isEmpty then [s.oddityAt row .noEffects] else []) ++
        (match seen.lookup conditions with
          | some earlier => [s.oddityAt row (.repeatsRow earlier)]
          | none => [])
      let rule : RuleDraft := ⟨table ++ "_" ++ toString (row + 1), predicates, effects⟩
      s.compileRows table columns ((c.report remarks).push rule) ((conditions, row) :: seen) rest

def compileInto (c : Compiled) (s : Sheet) : Compiled :=
  match s.headerRow? with
  | none => c.report [⟨s.name, none, none, .defect .missingHeader⟩]
  | some header =>
    if firstDataRow ≤ header + templatesOffset then c.report [s.defectAt header (some 0) .noRoomBelowHeader]
    else
      match s.columnDefects header with
      | d :: ds => c.report (d :: ds)
      | [] =>
        let compiled := s.compileRows (s.tableName header) (s.columns header) c [] s.dataRows
        if compiled.rules.length = c.rules.length then
          compiled.report [⟨s.name, none, none, .oddity .noDataRows⟩]
        else compiled

def compile (s : Sheet) : Compiled := compileInto {} s

end Sheet

structure CompileError where
  diagnostics : List Diagnostic
  deriving DecidableEq

def CompileError.message (e : CompileError) : String :=
  "rule base build failed with " ++ toString e.diagnostics.length ++ " error(s):\n" ++
    "\n".intercalate (e.diagnostics.map Diagnostic.text)

namespace Compiled

def errors (c : Compiled) : List Diagnostic := c.diagnostics.filter Diagnostic.isError

def ruleBase (c : Compiled) (ruleSet versionTag : String) : Except CompileError RuleBase :=
  match c.errors with
  | [] => .ok (.ofDrafts ruleSet versionTag c.rules)
  | errors => .error ⟨errors⟩

end Compiled

def Workbook.compile (w : Workbook) : Compiled := w.ruleSheets.foldl Sheet.compileInto {}

end DiscountTables
