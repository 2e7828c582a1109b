import DiscountTables.Compilation
import Mathlib.Data.Nat.Notation
import Mathlib.Order.Notation

namespace DiscountTables

open Text

def Template.Operator.Accepts (op : Template.Operator) (cell value : String) : Prop :=
  match op with
  | .equal => value = cell
  | .notEqual => value ≠ cell
  | .fits => ∃ p : Pattern, Pattern.ofText ("^(?:" ++ cell ++ ")$") = .ok p ∧
      ∃ i j, Pattern.Spans value.toList p.node i j

structure RuleTable where
  sheet : Sheet
  header : ℕ
  name : String

namespace RuleTable

variable (t : RuleTable)

def kind (column : ℕ) : String := t.sheet.trimmed (t.header + 1) column
def template (column : ℕ) : String := t.sheet.trimmed (t.header + 3) column

def HasKind (kind : String) (column : ℕ) : Prop :=
  1 ≤ column ∧ eqIgnoringCase (t.kind column) kind = true

def Condition (column : ℕ) (field : RequestField) (op : Template.Operator) : Prop :=
  t.HasKind "CONDITION" column ∧ ∃ owner, ConditionTemplate.read (t.template column) = .ok ⟨field, op, owner⟩

def Action (column : ℕ) (field : ResponseField) : Prop :=
  t.HasKind "ACTION" column ∧ ∃ owner, ActionTemplate.read (t.template column) = .ok ⟨field, owner⟩

def TitledAt (row : ℕ) (title : String) : Prop :=
  ∃ marker rest, eqIgnoringCase marker "RuleTable" = true ∧ t.sheet.trimmed row 0 = marker ++ rest ∧
    title = trim rest

/-- The header is the first marked row of the rows 1 to 8, the name is its title with each blank
replaced, and every column with a kind can be read. -/
structure WellFormed : Prop where
  header_pos : 1 ≤ t.header
  header_lt : t.header < 9
  first : ∀ row, 1 ≤ row → row < t.header → ∀ title, ¬ t.TitledAt row title
  named : ∃ title, t.TitledAt t.header title ∧
    t.name = Sheet.withoutBlanks (if title = "" then t.sheet.name else title)
  conditions : ∀ column, t.HasKind "CONDITION" column → ∃ field op, t.Condition column field op
  actions : ∀ column, t.HasKind "ACTION" column → ∃ field, t.Action column field

end RuleTable

structure TableRow where
  table : RuleTable
  row : ℕ

def RuleTable.dataRows (t : RuleTable) : List TableRow := t.sheet.dataRows.map fun row => ⟨t, row⟩

namespace TableRow

variable (r : TableRow)

def name : String := r.table.name ++ "_" ++ toString (r.row + 1)

def text (column : ℕ) : String := r.table.sheet.trimmed r.row column

def Applies (request : Request) : Prop :=
  ∀ column field op, r.table.Condition column field op → r.text column ≠ "" →
    op.Accepts (r.text column) (request.get field)

end TableRow

/-- Read row by row from left to right, `text` is the last that the action cells for a field hold. -/
def LastText (rows : List TableRow) (field : ResponseField) (text : String) : Prop :=
  text ≠ "" ∧ ∃ above r below column, rows = above ++ r :: below ∧ r.table.Action column field ∧
    r.text column = text ∧ (∀ c, column < c → r.table.Action c field → r.text c = "") ∧
    ∀ q ∈ below, ∀ c, q.table.Action c field → q.text c = ""

open scoped Classical in
/-- The answer that the rule tables of a workbook give to a request: the rows that apply fire under
their names, in the order of the document, and a field of the response is the last text that they hold
for it. -/
def Workbook.Answers (w : Workbook) (request : Request) (answer : Except EvaluationError Evaluation) : Prop :=
  ∃ tables : List RuleTable, tables.map RuleTable.sheet = w.ruleSheets ∧ (∀ t ∈ tables, t.WellFormed) ∧
    let rows := (tables.flatMap RuleTable.dataRows).filter fun r => r.Applies request
    match answer with
    | .error e => e = .noMatch ∧ rows = []
    | .ok e => rows ≠ [] ∧ e.fired = rows.map TableRow.name ∧
        ∀ field, (∀ text, e.response.get field = some text ↔ LastText rows field text) ∧
          (e.response.get field = none ↔ ∀ r ∈ rows, ∀ c, r.table.Action c field → r.text c = "")

end DiscountTables
