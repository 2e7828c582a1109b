import DiscountTables.Proofs.Compilation.Append
import DiscountTables.Proofs.DecisionTable.Answers
import DiscountTables.Proofs.Enumeration
import DiscountTables.Proofs.Sheet

namespace DiscountTables

open Text

namespace RuleTable

variable (t : RuleTable)

/-- What is wrong with a column. A template that is missing is found before a kind that is unknown. -/
inductive ColumnFault (column : ℕ) : Diagnostic → Prop
  | noTemplate (hi : 1 ≤ column) (hk : t.kind column ≠ "") (ht : t.template column = "") :
      ColumnFault column (t.sheet.defectAt (t.header + 3) (some column) (.noTemplate (t.kind column)))
  | unknownKind (hi : 1 ≤ column) (hk : t.kind column ≠ "") (ht : t.template column ≠ "")
      (hc : ¬ t.HasKind "CONDITION" column) (ha : ¬ t.HasKind "ACTION" column) :
      ColumnFault column (t.sheet.defectAt (t.header + 1) (some column) (.unknownKind (t.kind column)))
  | badCondition {e : TemplateError} (hk : t.HasKind "CONDITION" column) (ht : t.template column ≠ "")
      (he : ConditionTemplate.read (t.template column) = .error e) :
      ColumnFault column (t.sheet.defectAt (t.header + 3) (some column) (.badTemplate e))
  | badAction {e : TemplateError} (hk : t.HasKind "ACTION" column) (ht : t.template column ≠ "")
      (he : ActionTemplate.read (t.template column) = .error e) :
      ColumnFault column (t.sheet.defectAt (t.header + 3) (some column) (.badTemplate e))

open scoped Classical in
def ColumnReport (l : List Diagnostic) : Prop :=
  ∃ faults, Enumerates t.ColumnFault faults ∧ l = faults ++
    (if ∃ column field op, t.Condition column field op then []
      else [t.sheet.defectAt (t.header + 1) none .noConditions]) ++
    (if ∃ column field, t.Action column field then []
      else [t.sheet.defectAt (t.header + 1) none .noActions])

inductive CellFault (row column : ℕ) : Diagnostic → Prop
  | badPattern {field : RequestField} {e : Pattern.Invalid} (hrow : 9 ≤ row)
      (hc : t.Condition column field .fits) (hn : t.sheet.trimmed row column ≠ "")
      (he : Pattern.ofText ("^(?:" ++ t.sheet.trimmed row column ++ ")$") = .error e) :
      CellFault row column (t.sheet.defectAt row (some column) (.badPattern field e))

def CellReport (l : List Diagnostic) : Prop :=
  Enumerates (fun place : ℕ ×ₗ ℕ => t.CellFault (ofLex place).1 (ofLex place).2) l

end RuleTable

namespace Sheet

def Titled (s : Sheet) (row : ℕ) : Prop :=
  ∃ marker rest, eqIgnoringCase marker "RuleTable" = true ∧ s.trimmed row 0 = marker ++ rest

structure FirstTitled (s : Sheet) (header : ℕ) : Prop where
  header_pos : 1 ≤ header
  header_lt : header < 9
  titled : s.Titled header
  first : ∀ row, 1 ≤ row → row < header → ¬ s.Titled row

def table (s : Sheet) (header : ℕ) : RuleTable := ⟨s, header, s.tableName header⟩

/-- The errors of a sheet. Cells are looked at only where nothing above them is amiss. -/
inductive Reports (s : Sheet) : List Diagnostic → Prop
  | untitled (h : ∀ row, 1 ≤ row → row < 9 → ¬ s.Titled row) :
      Reports s [⟨s.name, none, none, .defect .missingHeader⟩]
  | noRoom {header : ℕ} (h : s.FirstTitled header) (hr : 5 < header) :
      Reports s [s.defectAt header (some 0) .noRoomBelowHeader]
  | columns {header : ℕ} {l : List Diagnostic} (h : s.FirstTitled header) (hr : header ≤ 5)
      (hl : (s.table header).ColumnReport l) (hne : l ≠ []) : Reports s l
  | cells {header : ℕ} {l : List Diagnostic} (h : s.FirstTitled header) (hr : header ≤ 5)
      (hc : (s.table header).ColumnReport []) (hl : (s.table header).CellReport l) : Reports s l

end Sheet

def Workbook.Reports (w : Workbook) (l : List Diagnostic) : Prop :=
  ∃ reports, List.Forall₂ Sheet.Reports w.ruleSheets reports ∧ l = reports.flatten

namespace Sheet

lemma titled_iff (s : Sheet) (row : ℕ) : s.Titled row ↔ (tableName? (s.cell row 0)).isSome = true := by
  simp only [Option.isSome_iff_exists, tableName?_eq_some_iff]
  constructor
  · rintro ⟨marker, rest, hm, hs⟩
    exact ⟨trim rest, marker, rest, hm, hs, rfl⟩
  · rintro ⟨_, marker, rest, hm, hs, _⟩
    exact ⟨marker, rest, hm, hs⟩

lemma firstTitled_iff (s : Sheet) (header : ℕ) : s.FirstTitled header ↔ s.headerRow? = some header := by
  simp only [headerRow?_eq_some_iff, ← Option.not_isSome_iff_eq_none, ← titled_iff]
  constructor
  · rintro ⟨hpos, hlt, ht, hfirst⟩
    exact ⟨ht, ⟨hpos, hlt⟩, hfirst⟩
  · rintro ⟨ht, ⟨hpos, hlt⟩, hfirst⟩
    exact ⟨hpos, hlt, ht, hfirst⟩

lemma untitled_iff (s : Sheet) :
    (∀ row, 1 ≤ row → row < 9 → ¬ s.Titled row) ↔ s.headerRow? = none := by
  simp only [headerRow?, firstDataRow, List.find?_eq_none, List.mem_range'_1, titled_iff]
  constructor
  · rintro h row ⟨hpos, hlt⟩
    exact h row hpos hlt
  · intro h row hpos hlt
    exact h row ⟨hpos, hlt⟩

end Sheet

namespace Column

lemma roleOf_eq_error_iff {kind template : String} {d : Defect} :
    roleOf kind template = .error d ↔
      (eqIgnoringCase kind "CONDITION" = true ∧
        ∃ e, ConditionTemplate.read template = .error e ∧ d = .badTemplate e) ∨
      (eqIgnoringCase kind "ACTION" = true ∧
        ∃ e, ActionTemplate.read template = .error e ∧ d = .badTemplate e) ∨
      (¬ eqIgnoringCase kind "CONDITION" = true ∧ ¬ eqIgnoringCase kind "ACTION" = true ∧
        d = .unknownKind kind) := by
  simp only [roleOf]
  by_cases hc : eqIgnoringCase kind "CONDITION" = true
  · rw [if_pos hc]
    cases ConditionTemplate.read template <;> simp [hc, not_action_of_condition hc, eq_comm]
  · rw [if_neg hc]
    by_cases ha : eqIgnoringCase kind "ACTION" = true
    · rw [if_pos ha]
      cases ActionTemplate.read template <;> simp [hc, ha, eq_comm]
    · simp [hc, ha, eq_comm]

end Column

namespace RuleTable

variable {t : RuleTable} {column : ℕ} {d : Diagnostic}

lemma column?_of_unknownKind {kind : String} (hk : t.kind column ≠ "") (ht : t.template column ≠ "")
    (h : Column.roleOf (t.kind column) (t.template column) = .error (.unknownKind kind)) :
    t.sheet.column? t.header column =
      some (.error (t.sheet.defectAt (t.header + 1) column (.unknownKind kind))) := by
  simp only [RuleTable.kind, template] at hk ht h
  simp only [Sheet.column?, Sheet.kindsOffset, Sheet.templatesOffset]
  simp [hk, ht, h]

lemma column?_of_badTemplate {e : TemplateError} (hk : t.kind column ≠ "") (ht : t.template column ≠ "")
    (h : Column.roleOf (t.kind column) (t.template column) = .error (.badTemplate e)) :
    t.sheet.column? t.header column =
      some (.error (t.sheet.defectAt (t.header + 3) column (.badTemplate e))) := by
  simp only [kind, template] at hk ht h
  simp only [Sheet.column?, Sheet.kindsOffset, Sheet.templatesOffset]
  simp [hk, ht, h]

lemma ColumnFault.column? (h : t.ColumnFault column d) :
    1 ≤ column ∧ t.sheet.column? t.header column = some (.error d) := by
  cases h with
  | noTemplate hi hk ht =>
    simp only [kind, template] at hk ht
    exact ⟨hi, by simp [Sheet.column?, Sheet.kindsOffset, Sheet.templatesOffset, hk, ht, kind]⟩
  | unknownKind hi hk ht hc ha =>
    have hr : Column.roleOf (t.kind column) (t.template column) = .error (.unknownKind (t.kind column)) :=
      Column.roleOf_eq_error_iff.mpr (Or.inr (Or.inr ⟨fun h => hc ⟨hi, h⟩, fun h => ha ⟨hi, h⟩, rfl⟩))
    exact ⟨hi, column?_of_unknownKind hk ht hr⟩
  | badCondition hk ht he =>
    have hr := Column.roleOf_eq_error_iff.mpr (Or.inl ⟨hk.2, _, he, rfl⟩)
    exact ⟨hk.1, column?_of_badTemplate (kind_ne_empty hk (by decide)) ht hr⟩
  | badAction hk ht he =>
    have hr := Column.roleOf_eq_error_iff.mpr (Or.inr (Or.inl ⟨hk.2, _, he, rfl⟩))
    exact ⟨hk.1, column?_of_badTemplate (kind_ne_empty hk (by decide)) ht hr⟩

lemma columnFault_of_column? (hi : 1 ≤ column) (h : t.sheet.column? t.header column = some (.error d)) :
    t.ColumnFault column d := by
  have hk : t.kind column ≠ "" := by
    intro hk
    rw [(t.sheet.column?_eq_none_iff t.header column).mpr hk] at h
    cases h
  by_cases ht : t.template column = ""
  · have hf : t.ColumnFault column _ := .noTemplate hi hk ht
    rw [hf.column?.2] at h
    obtain rfl := Except.error.inj (Option.some.inj h)
    exact hf
  cases hr : Column.roleOf (t.kind column) (t.template column) with
  | ok role =>
    have hok := (t.sheet.column?_eq_ok_iff t.header column ⟨column, role⟩).mpr ⟨rfl, hk, ht, hr⟩
    rw [hok] at h
    cases h
  | error e =>
    rcases Column.roleOf_eq_error_iff.mp hr with ⟨hc, e', he, rfl⟩ | ⟨ha, e', he, rfl⟩ | ⟨hc, ha, rfl⟩
    · obtain rfl := Except.error.inj (Option.some.inj ((column?_of_badTemplate hk ht hr).symm.trans h))
      exact .badCondition ⟨hi, hc⟩ ht he
    · obtain rfl := Except.error.inj (Option.some.inj ((column?_of_badTemplate hk ht hr).symm.trans h))
      exact .badAction ⟨hi, ha⟩ ht he
    · obtain rfl := Except.error.inj (Option.some.inj ((column?_of_unknownKind hk ht hr).symm.trans h))
      exact .unknownKind hi hk ht (fun h => hc h.2) fun h => ha h.2

lemma columnFault_iff :
    t.ColumnFault column d ↔ 1 ≤ column ∧ t.sheet.column? t.header column = some (.error d) :=
  ⟨ColumnFault.column?, fun h => columnFault_of_column? h.1 h.2⟩

lemma enumerates_columnFault : Enumerates t.ColumnFault ((t.sheet.columnReadings t.header).filterMap fun
    | .error d => some d
    | .ok _ => none) := by
  rw [Sheet.columnReadings, List.filterMap_filterMap]
  refine enumerates_filterMap id List.pairwise_lt_range' ?_
  intro column d
  simp only [columnFault_iff, id_eq, List.mem_range'_1]
  constructor
  · rintro ⟨hi, hd⟩
    have hw : column < t.sheet.width t.header := by
      by_contra hn
      rw [(t.sheet.column?_eq_none_iff t.header column).mpr (t.sheet.trimmed_eq_empty (Nat.not_lt.mp hn))] at hd
      cases hd
    exact ⟨column, by omega, rfl, by rw [hd]; rfl⟩
  · rintro ⟨_, hi, rfl, hd⟩
    obtain ⟨reading, hr, hd⟩ := Option.bind_eq_some_iff.mp hd
    cases reading with
    | error d' => exact ⟨hi.1, hr.trans (by rw [Option.some.inj hd])⟩
    | ok c => cases hd

lemma any_isCondition_iff : (t.sheet.columns t.header).any Column.isCondition = true ↔
    ∃ column field op, t.Condition column field op := by
  simp only [List.any_eq_true, condition_iff]
  constructor
  · rintro ⟨⟨i, role⟩, hc, hrole⟩
    cases role with
    | condition field op => exact ⟨i, field, op, hc⟩
    | action field => cases hrole
  · rintro ⟨i, field, op, hc⟩
    exact ⟨_, hc, rfl⟩

lemma any_isAction_iff : ((t.sheet.columns t.header).any fun c => !c.isCondition) = true ↔
    ∃ column field, t.Action column field := by
  simp only [List.any_eq_true, action_iff]
  constructor
  · rintro ⟨⟨i, role⟩, hc, hrole⟩
    cases role with
    | condition field op => cases hrole
    | action field => exact ⟨i, field, hc⟩
  · rintro ⟨i, field, hc⟩
    exact ⟨_, hc, rfl⟩

open scoped Classical in
lemma columnDefects_eq : t.sheet.columnDefects t.header =
    ((t.sheet.columnReadings t.header).filterMap fun
      | .error d => some d
      | .ok _ => none) ++
    (if ∃ column field op, t.Condition column field op then []
      else [t.sheet.defectAt (t.header + 1) none .noConditions]) ++
    (if ∃ column field, t.Action column field then []
      else [t.sheet.defectAt (t.header + 1) none .noActions]) := by
  rw [Sheet.columnDefects, if_congr any_isCondition_iff rfl rfl, if_congr any_isAction_iff rfl rfl]
  rfl

lemma columnReport_iff (l : List Diagnostic) : t.ColumnReport l ↔ t.sheet.columnDefects t.header = l := by
  have hone : ∀ column d e, t.ColumnFault column d → t.ColumnFault column e → d = e := by
    intro column d e hd he
    exact Except.error.inj (Option.some.inj (hd.column?.2.symm.trans he.column?.2))
  rw [ColumnReport, columnDefects_eq]
  constructor
  · rintro ⟨faults, hf, rfl⟩
    rw [hf.unique hone enumerates_columnFault]
  · rintro rfl
    exact ⟨_, enumerates_columnFault, rfl⟩

end RuleTable

namespace Sheet

def cellFault? (s : Sheet) (row : ℕ) (c : Column) : Option Diagnostic :=
  match c.role with
  | .action _ => none
  | .condition field op =>
    if s.trimmed row c.index = "" then none
    else
      match predicate field op (s.trimmed row c.index) with
      | .ok _ => none
      | .error e => some (s.defectAt row c.index (.badPattern field e))

lemma rowDefects_eq (s : Sheet) (columns : List Column) (row : ℕ) :
    s.rowDefects columns row = columns.filterMap (s.cellFault? row) := by
  rw [rowDefects, predicateReadings, List.filterMap_filterMap]
  congr 1
  funext c
  obtain ⟨i, role⟩ := c
  cases role with
  | action field => rfl
  | condition field op =>
    simp only [cellFault?]
    split
    · rfl
    · cases predicate field op (s.trimmed row i) <;> rfl

lemma cellFault?_eq_some_iff {s : Sheet} {row : ℕ} {c : Column} {d : Diagnostic} :
    s.cellFault? row c = some d ↔ ∃ field e, c.role = .condition field .fits ∧ s.trimmed row c.index ≠ "" ∧
      Pattern.ofText ("^(?:" ++ s.trimmed row c.index ++ ")$") = .error e ∧
      d = s.defectAt row c.index (.badPattern field e) := by
  obtain ⟨i, role⟩ := c
  cases role with
  | action field => simp [cellFault?]
  | condition field op =>
    by_cases hn : s.trimmed row i = ""
    · simp [cellFault?, hn]
    cases op with
    | equal => simp [cellFault?, hn, predicate]
    | notEqual => simp [cellFault?, hn, predicate]
    | fits =>
      simp only [cellFault?, predicate, Pattern.ofCell, if_neg hn]
      cases Pattern.ofText ("^(?:" ++ s.trimmed row i ++ ")$") <;> simp [Except.map, hn, eq_comm]

end Sheet

namespace RuleTable

variable {t : RuleTable}

lemma cellReport_rowDefects :
    t.CellReport (t.sheet.dataRows.flatMap (t.sheet.rowDefects (t.sheet.columns t.header))) := by
  have hrow : ∀ row ∈ t.sheet.dataRows,
      Enumerates (fun column d => ∃ c ∈ t.sheet.columns t.header, c.index = column ∧ t.sheet.cellFault? row c = some d)
        (t.sheet.rowDefects (t.sheet.columns t.header) row) := by
    intro row _
    rw [Sheet.rowDefects_eq]
    exact enumerates_filterMap Column.index (t.sheet.columns_sorted t.header) fun _ _ => Iff.rfl
  refine enumerates_flatMap id t.sheet.dataRows_sorted hrow fun row column d => ?_
  simp only [ofLex_toLex, id_eq, Sheet.cellFault?_eq_some_iff]
  constructor
  · rintro ⟨hrow, hc, hn, he⟩
    have hmem := (t.sheet.mem_dataRows_iff row).mpr ⟨hrow, Sheet.isBlankRow_eq_false hn⟩
    exact ⟨row, hmem, rfl, _, (t.condition_iff _ _ _).mp hc, rfl, _, _, rfl, hn, he, rfl⟩
  · rintro ⟨_, hmem, rfl, ⟨_, _⟩, hc, rfl, field, e, rfl, hn, he, rfl⟩
    exact .badPattern ((t.sheet.mem_dataRows_iff _).mp hmem).1 ((t.condition_iff _ _ _).mpr hc) hn he

lemma cellReport_iff (l : List Diagnostic) :
    t.CellReport l ↔ t.sheet.dataRows.flatMap (t.sheet.rowDefects (t.sheet.columns t.header)) = l := by
  constructor
  · intro h
    refine Enumerates.unique ?_ cellReport_rowDefects h
    rintro place d e ⟨_, hc, _, hd⟩ ⟨_, hc', _, he⟩
    obtain ⟨_, _, hread⟩ := hc
    obtain ⟨_, _, hread'⟩ := hc'
    have hfield := congrArg ConditionTemplate.field (Except.ok.inj (hread.symm.trans hread'))
    have herror := Except.error.inj (hd.symm.trans he)
    simp only at hfield
    rw [hfield, herror]
  · rintro rfl
    exact cellReport_rowDefects

end RuleTable

namespace Sheet

lemma errors_of_untitled {s : Sheet} (h : s.headerRow? = none) :
    s.compile.errors = [⟨s.name, none, none, .defect .missingHeader⟩] := by
  rw [compile_untitled h]
  rfl

lemma errors_of_noRoom {s : Sheet} {header : ℕ} (h : s.headerRow? = some header) (hr : 5 < header) :
    s.compile.errors = [s.defectAt header (some 0) .noRoomBelowHeader] := by
  have hroom : firstDataRow ≤ header + templatesOffset := by
    simp only [firstDataRow, templatesOffset]
    omega
  rw [compile_noRoom h hroom]
  rfl

lemma errors_of_columns {s : Sheet} {header : ℕ} (h : s.headerRow? = some header) (hr : header ≤ 5)
    (hc : s.columnDefects header ≠ []) : s.compile.errors = s.columnDefects header := by
  have hroom : header + templatesOffset < firstDataRow := by
    simp only [firstDataRow, templatesOffset]
    omega
  rw [compile_unreadable h hroom hc]
  exact List.filter_eq_self.mpr fun d hd => isError_of_mem_columnDefects hd

lemma errors_of_cells {s : Sheet} {header : ℕ} (h : s.headerRow? = some header) (hr : header ≤ 5)
    (hc : s.columnDefects header = []) :
    s.compile.errors = s.dataRows.flatMap (s.rowDefects (s.columns header)) := by
  refine (compile_of_header h ?_ hc).1
  simp only [firstDataRow, templatesOffset]
  omega

lemma columnReport_table {s : Sheet} {header : ℕ} {l : List Diagnostic} :
    (s.table header).ColumnReport l ↔ s.columnDefects header = l :=
  RuleTable.columnReport_iff (t := s.table header) l

lemma cellReport_table {s : Sheet} {header : ℕ} {l : List Diagnostic} :
    (s.table header).CellReport l ↔ s.dataRows.flatMap (s.rowDefects (s.columns header)) = l :=
  RuleTable.cellReport_iff (t := s.table header) l

lemma Reports.errors_eq {s : Sheet} {l : List Diagnostic} (h : s.Reports l) : s.compile.errors = l := by
  cases h with
  | untitled h => exact errors_of_untitled (s.untitled_iff.mp h)
  | noRoom h hr => exact errors_of_noRoom ((s.firstTitled_iff _).mp h) hr
  | columns h hr hl hne =>
    have hc := columnReport_table.mp hl
    rw [errors_of_columns ((s.firstTitled_iff _).mp h) hr (by rwa [hc]), hc]
  | cells h hr hc hl =>
    have hc := columnReport_table.mp hc
    rw [errors_of_cells ((s.firstTitled_iff _).mp h) hr hc, cellReport_table.mp hl]

lemma reports_errors (s : Sheet) : s.Reports s.compile.errors := by
  cases hh : s.headerRow? with
  | none =>
    rw [errors_of_untitled hh]
    exact .untitled (s.untitled_iff.mpr hh)
  | some header =>
    have ht := (s.firstTitled_iff header).mpr hh
    by_cases hr : 5 < header
    · rw [errors_of_noRoom hh hr]
      exact .noRoom ht hr
    have hr := Nat.not_lt.mp hr
    by_cases hc : s.columnDefects header = []
    · rw [errors_of_cells hh hr hc]
      exact .cells ht hr (columnReport_table.mpr hc) (cellReport_table.mpr rfl)
    · rw [errors_of_columns hh hr hc]
      exact .columns ht hr (columnReport_table.mpr rfl) hc

lemma reports_iff (s : Sheet) (l : List Diagnostic) : s.Reports l ↔ s.compile.errors = l :=
  ⟨Reports.errors_eq, fun h => h ▸ s.reports_errors⟩

end Sheet

namespace Workbook

lemma reports_iff (w : Workbook) (l : List Diagnostic) : w.Reports l ↔ w.compile.errors = l := by
  have hall : ∀ sheets : List Sheet, ∀ reports, List.Forall₂ Sheet.Reports sheets reports ↔
      sheets.map (fun s => s.compile.errors) = reports := by
    intro sheets
    induction sheets with
    | nil => simp [eq_comm]
    | cons s rest ih =>
      intro reports
      cases reports with
      | nil => simp
      | cons r reports => simp [ih, Sheet.reports_iff]
  simp only [Reports, hall, compile_errors, List.flatMap_def]
  constructor
  · rintro ⟨_, rfl, rfl⟩
    rfl
  · rintro rfl
    exact ⟨_, rfl, rfl⟩

/-- Compilation reports the errors of the rule sheets, and there is a rule base where there are none. -/
theorem compile_reports (w : Workbook) (ruleSet tag : String) :
    (∀ l, w.Reports l ↔ w.compile.errors = l) ∧
    ((∃ base, w.compile.ruleBase ruleSet tag = .ok base) ↔ w.Reports []) ∧
    ∀ e, w.compile.ruleBase ruleSet tag = .error e ↔ e.diagnostics ≠ [] ∧ w.Reports e.diagnostics := by
  simp only [reports_iff, Compiled.ruleBase_eq]
  refine ⟨fun _ => trivial, ?_, ?_⟩
  · by_cases h : w.compile.errors = [] <;> simp [h]
  · rintro ⟨l⟩
    by_cases h : w.compile.errors = []
    · simp [h, eq_comm]
    · rw [if_neg h]
      constructor
      · rintro ⟨⟩
        exact ⟨h, rfl⟩
      · rintro ⟨_, he⟩
        exact congrArg (fun l => Except.error (CompileError.mk l)) he

end Workbook

end DiscountTables
