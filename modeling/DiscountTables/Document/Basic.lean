import DiscountTables.Document.Cell
import DiscountTables.Sheet.Basic

/-!
Documents and the workbooks they hold. The cells of a sheet span a range, and the grid of a sheet
keeps the positions that the cells have on the sheet, not in the range.
-/

namespace DiscountTables

open Document

namespace Document

structure CellRange (α : Type) where
  firstRow : Nat
  firstColumn : Nat
  rows : List (List (Option α))
  deriving DecidableEq, Repr

def placeText (from1904 : Bool) (cell : Option Cell) : String := cell.elim "" (Cell.display from1904)

def CellRange.grid (from1904 : Bool) (range : CellRange Cell) : List (List String) :=
  List.replicate range.firstRow [] ++ range.rows.map fun row =>
    List.replicate range.firstColumn "" ++ row.map (placeText from1904)

structure PlacedCell where
  row : Nat
  column : Nat
  kind : CellKind
  value : String
  deriving DecidableEq, Repr

def PlacedCell.cell (p : PlacedCell) : Except WorkbookError Cell :=
  Cell.ofStored p.kind p.value

/-- The range from the least to the greatest row and column that hold a cell. Of two cells at one place
the later counts. -/
def CellRange.ofCells? (cells : List PlacedCell) : Option (CellRange PlacedCell) := do
  let firstRow ← (cells.map (·.row)).min?
  let lastRow ← (cells.map (·.row)).max?
  let firstColumn ← (cells.map (·.column)).min?
  let lastColumn ← (cells.map (·.column)).max?
  return {
    firstRow
    firstColumn
    rows := (List.range' firstRow (lastRow + 1 - firstRow)).map fun r =>
      let inRow := cells.filter fun p => p.row == r
      (List.range' firstColumn (lastColumn + 1 - firstColumn)).map fun c =>
        (inRow.filter fun p => p.column == c).getLast? }

def readPlace : Option PlacedCell → Except WorkbookError (Option Cell)
  | none => .ok none
  | some p => p.cell.map some

def CellRange.read (range : CellRange PlacedCell) : Except WorkbookError (CellRange Cell) := do
  let rows ← range.rows.mapM fun row => row.mapM readPlace
  return ⟨range.firstRow, range.firstColumn, rows⟩

structure StoredSheet where
  name : String
  cells : List PlacedCell
  deriving DecidableEq, Repr

def StoredSheet.rows (from1904 : Bool) (s : StoredSheet) : Except WorkbookError (List (List String)) :=
  match CellRange.ofCells? s.cells with
  | none => .ok []
  | some range => range.read.map (CellRange.grid from1904)

structure Spreadsheet where
  sheets : List StoredSheet
  from1904 : Bool
  deriving DecidableEq, Repr

namespace Spreadsheet

def sheet? (s : Spreadsheet) (name : String) : Option StoredSheet :=
  s.sheets.find? fun stored => stored.name == name

/-- The sheets in order. Contents are found by name, so what comes under a name a second time repeats
the first sheet of that name. -/
def toWorkbook (s : Spreadsheet) : Except WorkbookError Workbook := do
  let sheets ← s.sheets.mapM fun stored => do
    let rows ← ((s.sheet? stored.name).getD stored).rows s.from1904
    return (⟨stored.name, rows⟩ : Sheet)
  return ⟨sheets⟩

end Spreadsheet

end Document

inductive Document where
  | spreadsheet (s : Spreadsheet)
  | raw (bytes : List UInt8)
  deriving DecidableEq, Repr

instance : EmptyCollection Document := ⟨.raw []⟩

def Document.decode : Document → Except WorkbookError Workbook
  | .spreadsheet s => s.toWorkbook
  | .raw _ => .error .unknownFormat

end DiscountTables
