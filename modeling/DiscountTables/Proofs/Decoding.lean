import DiscountTables.Document.Basic
import DiscountTables.Proofs.Results
import DiscountTables.Proofs.Sheet

namespace DiscountTables

lemma getElem?_of_forall₂ {α β : Type} {R : α → β → Prop} {l : List α} {m : List β} (h : List.Forall₂ R l m)
    (i : ℕ) : Option.Rel R l[i]? m[i]? := by
  induction h generalizing i with
  | nil => exact .none
  | cons hab _ ih =>
    cases i with
    | zero => exact .some hab
    | succ i => exact ih i

lemma getElem?_replicate_append {α : Type} (n : ℕ) (a : α) (l : List α) (i : ℕ) :
    (List.replicate n a ++ l)[i]? = if i < n then some a else l[i - n]? := by
  rw [List.getElem?_append, List.length_replicate]
  split
  · rename_i h
    rw [List.getElem?_replicate, if_pos h]
  · rfl

namespace Document

namespace CellRange

variable {α : Type}

def cellAt? (range : CellRange α) (row column : ℕ) : Option α :=
  if row < range.firstRow ∨ column < range.firstColumn then none
  else ((range.rows[row - range.firstRow]?.getD [])[column - range.firstColumn]?).join

lemma cell_grid (from1904 : Bool) (range : CellRange Cell) (name : String) (row column : ℕ) :
    (Sheet.mk name (range.grid from1904)).cell row column = placeText from1904 (range.cellAt? row column) := by
  rw [Sheet.cell_eq, grid, getElem?_replicate_append, cellAt?]
  by_cases hr : row < range.firstRow
  · simp [hr, placeText]
  rw [if_neg hr, List.getElem?_map]
  simp only [hr, false_or]
  cases range.rows[row - range.firstRow]? with
  | none => simp [placeText]
  | some cells =>
    simp only [Option.map_some, Option.getD_some, getElem?_replicate_append]
    by_cases hc : column < range.firstColumn
    · simp [hc, placeText]
    · rw [if_neg hc, if_neg hc, List.getElem?_map]
      cases cells[column - range.firstColumn]? <;> simp [placeText]

lemma length_grid (from1904 : Bool) (range : CellRange Cell) :
    (range.grid from1904).length = range.firstRow + range.rows.length := by
  simp [grid]

lemma readPlace_cellAt? {range : CellRange PlacedCell} {read : CellRange Cell} (h : range.read = .ok read)
    (row column : ℕ) : readPlace (range.cellAt? row column) = .ok (read.cellAt? row column) := by
  obtain ⟨rows, hrows, h⟩ := bind_eq_ok.mp h
  cases h
  simp only [cellAt?]
  split
  · rfl
  have hrow := getElem?_of_forall₂ (mapM_eq_ok_iff.mp hrows) (row - range.firstRow)
  generalize range.rows[row - range.firstRow]? = stored, rows[row - range.firstRow]? = cells at hrow
  cases hrow with
  | none => rfl
  | @some stored cells hcells =>
    have hcell := getElem?_of_forall₂ (mapM_eq_ok_iff.mp hcells) (column - range.firstColumn)
    rw [Option.getD_some, Option.getD_some]
    generalize stored[column - range.firstColumn]? = p, cells[column - range.firstColumn]? = cell at hcell
    cases hcell with
    | none => rfl
    | some hcell => exact hcell

lemma length_rows_read {range : CellRange PlacedCell} {read : CellRange Cell} (h : range.read = .ok read) :
    read.firstRow = range.firstRow ∧ read.rows.length = range.rows.length := by
  obtain ⟨rows, hrows, h⟩ := bind_eq_ok.mp h
  cases h
  exact ⟨rfl, (mapM_eq_ok_iff.mp hrows).length_eq.symm⟩

lemma cellAt?_table (firstRow firstColumn height width : ℕ) (f : ℕ → ℕ → Option α) (row column : ℕ) :
    (CellRange.mk firstRow firstColumn ((List.range' firstRow height).map fun r =>
      (List.range' firstColumn width).map (f r))).cellAt? row column =
    if (firstRow ≤ row ∧ row < firstRow + height) ∧ firstColumn ≤ column ∧ column < firstColumn + width then
      f row column
    else none := by
  by_cases hbefore : row < firstRow ∨ column < firstColumn
  · rw [cellAt?, if_pos hbefore, if_neg (by omega)]
  · obtain ⟨i, rfl⟩ := Nat.exists_eq_add_of_le (show firstRow ≤ row by omega)
    obtain ⟨j, rfl⟩ := Nat.exists_eq_add_of_le (show firstColumn ≤ column by omega)
    by_cases hi : i < height
    · by_cases hj : j < width <;> simp [cellAt?, hi, hj]
    · simp [cellAt?, hi]

section OfCells

variable {cells : List PlacedCell} {range : CellRange PlacedCell}

def cellsAt (cells : List PlacedCell) (row column : ℕ) : List PlacedCell :=
  (cells.filter fun p => p.row == row).filter fun p => p.column == column

lemma mem_cellsAt_iff {row column : ℕ} {p : PlacedCell} :
    p ∈ cellsAt cells row column ↔ p ∈ cells ∧ p.row = row ∧ p.column = column := by
  simp only [cellsAt, List.mem_filter, beq_iff_eq, and_assoc]

lemma cellsAt_eq_nil_iff {row column : ℕ} :
    cellsAt cells row column = [] ↔ ∀ p ∈ cells, ¬ (p.row = row ∧ p.column = column) := by
  simp [List.eq_nil_iff_forall_not_mem, mem_cellsAt_iff]

lemma ofCells?_eq_none (h : ofCells? cells = none) : cells = [] := by
  cases cells with
  | nil => rfl
  | cons p rest => simp [ofCells?] at h

lemma ofCells?_eq_some (h : ofCells? cells = some range) : ∃ firstRow lastRow firstColumn lastColumn,
    (cells.map PlacedCell.row).min? = some firstRow ∧ (cells.map PlacedCell.row).max? = some lastRow ∧
    (cells.map PlacedCell.column).min? = some firstColumn ∧ (cells.map PlacedCell.column).max? = some lastColumn ∧
    range = ⟨firstRow, firstColumn, (List.range' firstRow (lastRow + 1 - firstRow)).map fun row =>
      (List.range' firstColumn (lastColumn + 1 - firstColumn)).map fun column =>
        (cellsAt cells row column).getLast?⟩ := by
  obtain ⟨firstRow, hfirstRow, h⟩ := Option.bind_eq_some_iff.mp h
  obtain ⟨lastRow, hlastRow, h⟩ := Option.bind_eq_some_iff.mp h
  obtain ⟨firstColumn, hfirstColumn, h⟩ := Option.bind_eq_some_iff.mp h
  obtain ⟨lastColumn, hlastColumn, h⟩ := Option.bind_eq_some_iff.mp h
  exact ⟨firstRow, lastRow, firstColumn, lastColumn, hfirstRow, hlastRow, hfirstColumn, hlastColumn,
    (Option.some.inj h).symm⟩

lemma least_le {key : PlacedCell → ℕ} {least : ℕ} (h : (cells.map key).min? = some least) {p : PlacedCell}
    (hp : p ∈ cells) : least ≤ key p := (List.min?_eq_some_iff.mp h).2 _ (List.mem_map_of_mem hp)

lemma le_greatest {key : PlacedCell → ℕ} {greatest : ℕ} (h : (cells.map key).max? = some greatest) {p : PlacedCell}
    (hp : p ∈ cells) : key p ≤ greatest := (List.max?_eq_some_iff.mp h).2 _ (List.mem_map_of_mem hp)

lemma cellAt?_ofCells? (h : ofCells? cells = some range) (row column : ℕ) :
    range.cellAt? row column = (cellsAt cells row column).getLast? := by
  obtain ⟨firstRow, lastRow, firstColumn, lastColumn, hfirstRow, hlastRow, hfirstColumn, hlastColumn, rfl⟩ :=
    ofCells?_eq_some h
  rw [cellAt?_table]
  split
  · rfl
  · rename_i hout
    -- No cell is outside the bounds.
    have hnone : cellsAt cells row column = [] := by
      rw [cellsAt_eq_nil_iff]
      rintro p hp ⟨rfl, rfl⟩
      have h1 := least_le hfirstRow hp
      have h2 := le_greatest hlastRow hp
      have h3 := least_le hfirstColumn hp
      have h4 := le_greatest hlastColumn hp
      omega
    rw [hnone, List.getLast?_nil]

lemma length_rows_ofCells? (h : ofCells? cells = some range) :
    range.firstRow + range.rows.length = (cells.map PlacedCell.row).max?.elim 0 (· + 1) := by
  obtain ⟨firstRow, lastRow, _, _, hfirstRow, hlastRow, -, -, rfl⟩ := ofCells?_eq_some h
  obtain ⟨p, hp, rfl⟩ := List.mem_map.mp (List.max?_eq_some_iff.mp hlastRow).1
  have hle := least_le hfirstRow hp
  simp only [hlastRow, List.length_map, List.length_range', Option.elim_some]
  omega

end OfCells

end CellRange

structure StoredSheet.Shown (from1904 : Bool) (stored : StoredSheet) (s : Sheet) : Prop where
  placed : ∀ p ∈ stored.cells, ∃ cell, p.cell = .ok cell ∧ s.cell p.row p.column = cell.display from1904
  elsewhere : ∀ row column, (∀ p ∈ stored.cells, ¬ (p.row = row ∧ p.column = column)) → s.cell row column = ""
  rows : s.rows.length = (stored.cells.map PlacedCell.row).max?.elim 0 (· + 1)

def StoredSheet.Placed (stored : StoredSheet) : Prop := (stored.cells.map fun p => (p.row, p.column)).Nodup

instance (stored : StoredSheet) : Decidable stored.Placed := inferInstanceAs (Decidable (List.Nodup _))

namespace StoredSheet

variable {from1904 : Bool} {stored : StoredSheet} {rows : List (List String)}

lemma Shown.congr {other : StoredSheet} {s : Sheet} (h : stored.Shown from1904 s)
    (hcells : stored.cells = other.cells) : other.Shown from1904 s := by
  obtain ⟨hplaced, helsewhere, hrows⟩ := h
  rw [hcells] at hplaced helsewhere hrows
  exact ⟨hplaced, helsewhere, hrows⟩

lemma rows_eq_ok (h : stored.rows from1904 = .ok rows) : (stored.cells = [] ∧ rows = []) ∨
    ∃ range read, CellRange.ofCells? stored.cells = some range ∧ range.read = .ok read ∧ rows = read.grid from1904 := by
  rw [StoredSheet.rows] at h
  split at h
  · rename_i hnone
    cases h
    exact Or.inl ⟨CellRange.ofCells?_eq_none hnone, rfl⟩
  · rename_i range hrange
    obtain ⟨read, hread, rfl⟩ := map_eq_ok.mp h
    exact Or.inr ⟨range, read, hrange, hread, rfl⟩

lemma length_rows (h : stored.rows from1904 = .ok rows) :
    rows.length = (stored.cells.map PlacedCell.row).max?.elim 0 (· + 1) := by
  rcases rows_eq_ok h with ⟨hcells, rfl⟩ | ⟨range, read, hrange, hread, rfl⟩
  · rw [hcells]
    rfl
  · obtain ⟨hfirst, hlength⟩ := CellRange.length_rows_read hread
    rw [CellRange.length_grid, hfirst, hlength, CellRange.length_rows_ofCells? hrange]

lemma cell_rows (h : stored.rows from1904 = .ok rows) (name : String) (row column : ℕ) :
    ∃ cell, readPlace (CellRange.cellsAt stored.cells row column).getLast? = .ok cell ∧
      (Sheet.mk name rows).cell row column = placeText from1904 cell := by
  rcases rows_eq_ok h with ⟨hcells, rfl⟩ | ⟨range, read, hrange, hread, rfl⟩
  · rw [hcells]
    exact ⟨none, rfl, rfl⟩
  · rw [← CellRange.cellAt?_ofCells? hrange]
    exact ⟨_, CellRange.readPlace_cellAt? hread row column, read.cell_grid from1904 name row column⟩

lemma Placed.getLast?_cellsAt (h : stored.Placed) {p : PlacedCell} (hp : p ∈ stored.cells) :
    (CellRange.cellsAt stored.cells p.row p.column).getLast? = some p := by
  have hne := List.ne_nil_of_mem (CellRange.mem_cellsAt_iff.mpr ⟨hp, rfl, rfl⟩)
  rw [List.getLast?_eq_some_getLast hne, Option.some.injEq]
  obtain ⟨hq, hrow, hcolumn⟩ := CellRange.mem_cellsAt_iff.mp (List.getLast_mem hne)
  exact List.inj_on_of_nodup_map h hq hp (Prod.ext hrow hcolumn)

lemma shown (hplaced : stored.Placed) (h : stored.rows from1904 = .ok rows) (name : String) :
    stored.Shown from1904 ⟨name, rows⟩ := by
  refine ⟨fun p hp => ?_, fun row column hnone => ?_, length_rows h⟩
  · obtain ⟨cell, hread, htext⟩ := cell_rows h name p.row p.column
    rw [hplaced.getLast?_cellsAt hp] at hread
    obtain ⟨cell, hcell, rfl⟩ := map_eq_ok.mp hread
    exact ⟨cell, hcell, htext⟩
  · obtain ⟨cell, hread, htext⟩ := cell_rows h name row column
    rw [CellRange.cellsAt_eq_nil_iff.mpr hnone] at hread
    cases hread
    exact htext

end StoredSheet

namespace Spreadsheet

variable {d : Spreadsheet} {stored : StoredSheet}

lemma exists_sheet? (h : stored ∈ d.sheets) :
    ∃ first ∈ d.sheets, d.sheet? stored.name = some first ∧ first.name = stored.name := by
  have hsome : (d.sheet? stored.name).isSome = true := List.find?_isSome.mpr ⟨stored, h, by simp⟩
  obtain ⟨first, hfirst⟩ := Option.isSome_iff_exists.mp hsome
  exact ⟨first, List.mem_of_find?_eq_some hfirst, hfirst, by simpa using List.find?_some hfirst⟩

lemma forall₂_shown {w : Workbook} (hplaced : ∀ stored ∈ d.sheets, stored.Placed) (h : d.toWorkbook = .ok w) :
    List.Forall₂ (fun stored s => s.name = stored.name ∧
      ∃ first, d.sheet? stored.name = some first ∧ first.Shown d.from1904 s) d.sheets w.sheets := by
  obtain ⟨sheets, hsheets, h⟩ := bind_eq_ok.mp h
  cases h
  refine ((List.forall₂_and_left _ _).mpr ⟨fun stored hs => hs, mapM_eq_ok_iff.mp hsheets⟩).imp ?_
  rintro stored s ⟨hs, hread⟩
  obtain ⟨rows, hrows, h⟩ := bind_eq_ok.mp hread
  cases h
  obtain ⟨first, hmem, hfirst, -⟩ := exists_sheet? hs
  rw [hfirst, Option.getD_some] at hrows
  exact ⟨rfl, first, hfirst, StoredSheet.shown (hplaced first hmem) hrows stored.name⟩

end Spreadsheet

/-- A range is laid out at its place on the sheet. Every sheet of a document shows the cells of the first sheet of its
name, and so its own unless an earlier sheet of that name has others. -/
theorem decode_places (d : Spreadsheet) (w : Workbook) :
    (∀ (range : CellRange Cell) (from1904 : Bool) (name : String),
      (∀ row column, (Sheet.mk name (range.grid from1904)).cell row column =
        placeText from1904 (range.cellAt? row column)) ∧
      (range.grid from1904).length = range.firstRow + range.rows.length) ∧
    ((∀ stored ∈ d.sheets, stored.Placed) → (Document.spreadsheet d).decode = .ok w →
      List.Forall₂ (fun stored s => s.name = stored.name ∧
        ∃ first, d.sheet? stored.name = some first ∧ first.Shown d.from1904 s) d.sheets w.sheets ∧
      ((∀ a ∈ d.sheets, ∀ b ∈ d.sheets, a.name = b.name → a.cells = b.cells) →
        List.Forall₂ (fun stored s => s.name = stored.name ∧ stored.Shown d.from1904 s) d.sheets w.sheets)) := by
  refine ⟨fun range from1904 name => ⟨range.cell_grid from1904 name, range.length_grid from1904⟩, ?_⟩
  intro hplaced h
  have hshown := Spreadsheet.forall₂_shown hplaced h
  refine ⟨hshown, fun hsame => ?_⟩
  refine ((List.forall₂_and_left _ _).mpr ⟨fun stored hs => hs, hshown⟩).imp ?_
  rintro stored s ⟨hs, hname, first, hfirst, hfirstShown⟩
  obtain ⟨first', hmem, hfirst', hname'⟩ := Spreadsheet.exists_sheet? hs
  obtain rfl := Option.some.inj (hfirst.symm.trans hfirst')
  exact ⟨hname, hfirstShown.congr (hsame first hmem stored hs hname')⟩

def croppedSheets : Spreadsheet :=
  ⟨[⟨"Rates", [⟨4, 2, .number, "0.50"⟩, ⟨2, 3, .sharedText, "AU"⟩]⟩, ⟨"Notes", []⟩], false⟩

theorem decode_places_croppedSheets : ∃ w, (Document.spreadsheet croppedSheets).decode = .ok w ∧
    List.Forall₂ (fun stored s => s.name = stored.name ∧ stored.Shown false s) croppedSheets.sheets w.sheets := by
  have hplaced : ∀ stored ∈ croppedSheets.sheets, stored.Placed := by decide
  have hdecode : (Document.spreadsheet croppedSheets).decode =
      .ok ⟨[⟨"Rates", [[], [], ["", "", "", "AU"], ["", "", "", ""], ["", "", "0.5", ""]]⟩, ⟨"Notes", []⟩]⟩ := by
    decide +kernel
  exact ⟨_, hdecode, ((decode_places _ _).2 hplaced hdecode).2 (by decide)⟩

def repeatedName : Spreadsheet :=
  ⟨[⟨"S", [⟨0, 0, .sharedText, "a"⟩]⟩, ⟨"S", [⟨1, 1, .sharedText, "b"⟩]⟩], false⟩

theorem decode_repeatedName : (∀ stored ∈ repeatedName.sheets, stored.Placed) ∧
    ∃ w, (Document.spreadsheet repeatedName).decode = .ok w ∧
      ¬ List.Forall₂ (fun stored s => s.name = stored.name ∧ stored.Shown false s) repeatedName.sheets w.sheets := by
  have hdecode : (Document.spreadsheet repeatedName).decode = .ok ⟨[⟨"S", [["a"]]⟩, ⟨"S", [["a"]]⟩]⟩ := by
    decide +kernel
  refine ⟨by decide, _, hdecode, ?_⟩
  rintro (_ | ⟨-, _ | ⟨⟨-, hshown⟩, -⟩⟩)
  obtain ⟨cell, hcell, htext⟩ := hshown.placed _ List.mem_cons_self
  cases hcell
  exact absurd htext (by decide)

end Document

end DiscountTables
