import DiscountTables.Compilation
import Mathlib.Tactic

namespace DiscountTables

namespace Compiled

def append (a b : Compiled) : Compiled := ⟨a.diagnostics ++ b.diagnostics, a.rules ++ b.rules⟩

@[simp] lemma append_empty (c : Compiled) : c.append {} = c := by simp [append]

lemma append_assoc (a b c : Compiled) : (a.append b).append c = a.append (b.append c) := by
  simp [append]

lemma append_report (a b : Compiled) (ds : List Diagnostic) : (a.append b).report ds = a.append (b.report ds) := by
  simp [append, report]

lemma append_push (a b : Compiled) (rule : RuleDraft) : (a.append b).push rule = a.append (b.push rule) := by
  simp [append, push]

@[simp] lemma append_rules (a b : Compiled) : (a.append b).rules = a.rules ++ b.rules := rfl

@[simp] lemma append_diagnostics (a b : Compiled) : (a.append b).diagnostics = a.diagnostics ++ b.diagnostics := rfl

@[simp] lemma append_errors (a b : Compiled) : (a.append b).errors = a.errors ++ b.errors :=
  List.filter_append _ _

end Compiled

namespace Sheet

def reading? (s : Sheet) (row : ℕ) (c : Column) : Option (Except Diagnostic Predicate) :=
  match c.role with
  | .action _ => none
  | .condition field op =>
    if s.trimmed row c.index = "" then none
    else some ((predicate field op (s.trimmed row c.index)).mapError fun e =>
      s.defectAt row c.index (.badPattern field e))

lemma predicateReadings_eq (s : Sheet) (columns : List Column) (row : ℕ) :
    s.predicateReadings columns row = columns.filterMap (s.reading? row) := by
  refine List.filterMap_congr fun c _ => ?_
  obtain ⟨index, ⟨field, op⟩ | field⟩ := c
  · simp only [reading?]
    split
    · rfl
    · cases predicate field op (s.trimmed row index) <;> rfl
  · rfl

lemma reading?_eq_some_iff {s : Sheet} {row : ℕ} {c : Column} {reading : Except Diagnostic Predicate} :
    s.reading? row c = some reading ↔ ∃ field op, c.role = .condition field op ∧ s.trimmed row c.index ≠ "" ∧
      reading = (predicate field op (s.trimmed row c.index)).mapError
        fun e => s.defectAt row c.index (.badPattern field e) := by
  obtain ⟨index, ⟨field, op⟩ | field⟩ := c
  · by_cases hn : s.trimmed row index = "" <;> simp [reading?, hn, eq_comm]
  · simp [reading?]

def rowDefects (s : Sheet) (columns : List Column) (row : ℕ) : List Diagnostic :=
  (s.predicateReadings columns row).filterMap fun
    | .error d => some d
    | .ok _ => none

def rowDraft (s : Sheet) (table : String) (columns : List Column) (row : ℕ) : RuleDraft :=
  ⟨table ++ "_" ++ toString (row + 1), (s.predicateReadings columns row).filterMap Except.toOption,
    s.effects columns row⟩

def conditionsText (s : Sheet) (columns : List Column) (row : ℕ) : String :=
  Predicate.conjunctionText ((s.predicateReadings columns row).filterMap Except.toOption)

def rowOddities (s : Sheet) (columns : List Column) (seen : List (String × ℕ)) (row : ℕ) :
    List Diagnostic :=
  (if (s.effects columns row).isEmpty then [s.oddityAt row .noEffects] else []) ++
  (match seen.lookup (s.conditionsText columns row) with
    | some earlier => [s.oddityAt row (.repeatsRow earlier)]
    | none => [])

lemma isError_of_mem_rowDefects {s : Sheet} {columns : List Column} {row : ℕ} {d : Diagnostic}
    (h : d ∈ s.rowDefects columns row) : d.isError = true := by
  obtain ⟨r, hr, hd⟩ := List.mem_filterMap.mp h
  obtain ⟨c, _, hc⟩ := List.mem_filterMap.mp hr
  split at hd
  · cases hd
    simp only at hc
    split at hc
    · cases hc
    · split at hc
      · cases hc
      · split at hc <;> cases hc
        rfl
  · cases hd

lemma isError_of_mem_columnDefects {s : Sheet} {header : ℕ} {d : Diagnostic}
    (h : d ∈ s.columnDefects header) : d.isError = true := by
  simp only [columnDefects, List.mem_append] at h
  rcases h with (h | h) | h
  · obtain ⟨r, hr, hd⟩ := List.mem_filterMap.mp h
    obtain ⟨c, _, hc⟩ := List.mem_filterMap.mp hr
    split at hd
    · cases hd
      simp only [column?] at hc
      split at hc
      · cases hc
      · split at hc
        · cases hc
          rfl
        · split at hc <;> cases hc <;> rfl
    · cases hd
  all_goals
    split at h
    · cases h
    · rw [List.mem_singleton.mp h]
      rfl

lemma isError_of_mem_rowOddities {s : Sheet} {columns : List Column} {seen : List (String × ℕ)}
    {row : ℕ} {d : Diagnostic} (h : d ∈ s.rowOddities columns seen row) : d.isError = false := by
  rcases List.mem_append.mp h with h | h
  all_goals
    split at h
    · rw [List.mem_singleton.mp h]
      rfl
    · cases h

structure Sound (s : Sheet) (header : ℕ) : Prop where
  marked : s.headerRow? = some header
  room : header + templatesOffset < firstDataRow
  readable : s.columnDefects header = []
  valid : ∀ row ∈ s.dataRows, s.rowDefects (s.columns header) row = []

section Rows

variable (s : Sheet) (table : String) (columns : List Column) (c : Compiled) (seen : List (String × ℕ))

lemma compileRows_sound {row : ℕ} (rest : List ℕ) (h : s.rowDefects columns row = []) :
    s.compileRows table columns c seen (row :: rest) =
      s.compileRows table columns ((c.report (s.rowOddities columns seen row)).push (s.rowDraft table columns row))
        ((s.conditionsText columns row, row) :: seen) rest := by
  simp only [rowDefects] at h
  rw [compileRows]
  split
  · rename_i hd
    cases h.symm.trans hd
  · rfl

lemma compileRows_broken {row : ℕ} (rest : List ℕ) (h : s.rowDefects columns row ≠ []) :
    s.compileRows table columns c seen (row :: rest) =
      s.compileRows table columns (c.report (s.rowDefects columns row)) seen rest := by
  rw [compileRows]
  split
  · rename_i d ds hd
    have hd : s.rowDefects columns row = d :: ds := hd
    rw [hd]
  · rename_i hd
    exact absurd hd h

lemma compileRows_append (b : Compiled) (rows : List ℕ) :
    s.compileRows table columns (c.append b) seen rows = c.append (s.compileRows table columns b seen rows) := by
  induction rows generalizing b seen with
  | nil => rfl
  | cons row rest ih =>
    by_cases h : s.rowDefects columns row = []
    · rw [compileRows_sound s table columns _ seen rest h, compileRows_sound s table columns b seen rest h,
        Compiled.append_report, Compiled.append_push, ih]
    · rw [compileRows_broken s table columns _ seen rest h, compileRows_broken s table columns b seen rest h,
        Compiled.append_report, ih]

lemma compileRows_cons_sound {row : ℕ} (rest : List ℕ) (h : s.rowDefects columns row = []) :
    s.compileRows table columns {} seen (row :: rest) =
      Compiled.append ⟨s.rowOddities columns seen row, [s.rowDraft table columns row]⟩
        (s.compileRows table columns {} ((s.conditionsText columns row, row) :: seen) rest) := by
  rw [compileRows_sound s table columns {} seen rest h, ← compileRows_append, Compiled.append_empty]
  rfl

lemma compileRows_cons_broken {row : ℕ} (rest : List ℕ) (h : s.rowDefects columns row ≠ []) :
    s.compileRows table columns {} seen (row :: rest) =
      Compiled.append ⟨s.rowDefects columns row, []⟩ (s.compileRows table columns {} seen rest) := by
  rw [compileRows_broken s table columns {} seen rest h, ← compileRows_append, Compiled.append_empty]
  rfl

lemma compileRows_errors (rows : List ℕ) :
    (s.compileRows table columns {} seen rows).errors = rows.flatMap (s.rowDefects columns) := by
  induction rows generalizing seen with
  | nil => rfl
  | cons row rest ih =>
    rw [List.flatMap_cons]
    by_cases h : s.rowDefects columns row = []
    · have hodd : (s.rowOddities columns seen row).filter Diagnostic.isError = [] := by
        simp only [List.filter_eq_nil_iff]
        intro d hd
        simp [isError_of_mem_rowOddities hd]
      rw [compileRows_cons_sound s table columns seen rest h, Compiled.append_errors, ih, h]
      simp [Compiled.errors, hodd]
    · have hdef : (s.rowDefects columns row).filter Diagnostic.isError = s.rowDefects columns row :=
        List.filter_eq_self.mpr fun d hd => isError_of_mem_rowDefects hd
      rw [compileRows_cons_broken s table columns seen rest h, Compiled.append_errors, ih]
      simp [Compiled.errors, hdef]

lemma compileRows_rules (rows : List ℕ) :
    (s.compileRows table columns {} seen rows).rules =
      (rows.filter fun row => (s.rowDefects columns row).isEmpty).map (s.rowDraft table columns) := by
  induction rows generalizing seen with
  | nil => rfl
  | cons row rest ih =>
    by_cases h : s.rowDefects columns row = []
    · rw [compileRows_cons_sound s table columns seen rest h, Compiled.append_rules, ih]
      simp [h]
    · rw [compileRows_cons_broken s table columns seen rest h, Compiled.append_rules, ih]
      simp [h]

end Rows

lemma compileInto_append (a b : Compiled) (s : Sheet) : s.compileInto (a.append b) = a.append (s.compileInto b) := by
  rw [compileInto, compileInto]
  split
  · exact Compiled.append_report a b _
  · split
    · exact Compiled.append_report a b _
    · split
      · exact Compiled.append_report a b _
      · simp only [compileRows_append, Compiled.append_rules, List.length_append, Nat.add_left_cancel_iff]
        split
        · exact Compiled.append_report a _ _
        · rfl

lemma compileInto_eq (c : Compiled) (s : Sheet) : s.compileInto c = c.append s.compile := by
  rw [compile, ← compileInto_append, Compiled.append_empty]

variable {s : Sheet} {header : ℕ}

lemma compile_untitled (hh : s.headerRow? = none) :
    s.compile = ⟨[⟨s.name, none, none, .defect .missingHeader⟩], []⟩ := by
  rw [compile, compileInto, hh]
  rfl

lemma compile_noRoom (hh : s.headerRow? = some header) (hr : firstDataRow ≤ header + templatesOffset) :
    s.compile = ⟨[s.defectAt header (some 0) .noRoomBelowHeader], []⟩ := by
  simp only [compile, compileInto, hh, if_pos hr]
  rfl

lemma compile_unreadable (hh : s.headerRow? = some header) (hr : header + templatesOffset < firstDataRow)
    (hc : s.columnDefects header ≠ []) : s.compile = ⟨s.columnDefects header, []⟩ := by
  simp only [compile, compileInto, hh, if_neg (Nat.not_le.mpr hr)]
  split
  · rename_i hd
    rw [hd]
    rfl
  · rename_i hd
    exact absurd hd hc

def noRowsRemark (s : Sheet) : Diagnostic := ⟨s.name, none, none, .oddity .noDataRows⟩

/-- A table is taken to have no rows if no row has become a rule. -/
lemma compile_readable (hh : s.headerRow? = some header) (hr : header + templatesOffset < firstDataRow)
    (hc : s.columnDefects header = []) :
    let compiled := s.compileRows (s.tableName header) (s.columns header) {} [] s.dataRows
    s.compile = compiled.append ⟨if compiled.rules = [] then [s.noRowsRemark] else [], []⟩ := by
  simp only [compile, compileInto, hh, hc, if_neg (Nat.not_le.mpr hr), List.length_nil, List.length_eq_zero_iff]
  split
  · simp only [Compiled.report, Compiled.append, List.append_nil, noRowsRemark]
  · exact (Compiled.append_empty _).symm

lemma compile_of_header (hh : s.headerRow? = some header) (hr : header + templatesOffset < firstDataRow)
    (hc : s.columnDefects header = []) :
    s.compile.errors = s.dataRows.flatMap (s.rowDefects (s.columns header)) ∧
      s.compile.rules = (s.dataRows.filter fun row => (s.rowDefects (s.columns header) row).isEmpty).map
        (s.rowDraft (s.tableName header) (s.columns header)) := by
  have hodd (p : Prop) [Decidable p] : (Compiled.mk (if p then [s.noRowsRemark] else []) []).errors = [] := by
    split <;> rfl
  rw [compile_readable hh hr hc, Compiled.append_errors, Compiled.append_rules, compileRows_errors, compileRows_rules,
    hodd]
  exact ⟨List.append_nil _, List.append_nil _⟩

lemma exists_sound (h : s.compile.errors = []) : ∃ header, s.Sound header := by
  cases hh : s.headerRow? with
  | none =>
    rw [compile_untitled hh] at h
    cases h
  | some header =>
    by_cases hr : firstDataRow ≤ header + templatesOffset
    · rw [compile_noRoom hh hr] at h
      cases h
    have hr := Nat.not_le.mp hr
    by_cases hc : s.columnDefects header = []
    · rw [(compile_of_header hh hr hc).1, List.flatMap_eq_nil_iff] at h
      exact ⟨header, hh, hr, hc, h⟩
    · have hall : (s.columnDefects header).filter Diagnostic.isError = s.columnDefects header :=
        List.filter_eq_self.mpr fun d hd => isError_of_mem_columnDefects hd
      rw [compile_unreadable hh hr hc] at h
      exact absurd (hall.symm.trans h) hc

lemma Sound.rules (h : s.Sound header) :
    s.compile.rules = s.dataRows.map (s.rowDraft (s.tableName header) (s.columns header)) := by
  rw [(compile_of_header h.marked h.room h.readable).2, List.filter_eq_self.mpr]
  intro row hrow
  rw [h.valid row hrow]
  rfl

end Sheet

namespace Workbook

lemma foldl_compileInto (c : Compiled) (sheets : List Sheet) :
    sheets.foldl Sheet.compileInto c = c.append (sheets.foldr (fun s rest => s.compile.append rest) {}) := by
  induction sheets generalizing c with
  | nil => exact c.append_empty.symm
  | cons s rest ih => rw [List.foldl_cons, ih, Sheet.compileInto_eq, Compiled.append_assoc, List.foldr_cons]

lemma compile_eq_foldr (w : Workbook) : w.compile = w.ruleSheets.foldr (fun s rest => s.compile.append rest) {} :=
  foldl_compileInto {} w.ruleSheets

lemma flatMap_compile {β : Type} (f : Compiled → List β) (hempty : f {} = [])
    (happend : ∀ a b, f (a.append b) = f a ++ f b) (w : Workbook) :
    f w.compile = w.ruleSheets.flatMap fun s => f s.compile := by
  rw [compile_eq_foldr]
  induction w.ruleSheets with
  | nil => exact hempty
  | cons s rest ih => rw [List.foldr_cons, happend, ih, List.flatMap_cons]

lemma compile_rules (w : Workbook) : w.compile.rules = w.ruleSheets.flatMap fun s => s.compile.rules :=
  flatMap_compile Compiled.rules rfl Compiled.append_rules w

lemma compile_errors (w : Workbook) : w.compile.errors = w.ruleSheets.flatMap fun s => s.compile.errors :=
  flatMap_compile Compiled.errors rfl Compiled.append_errors w

lemma compile_diagnostics (w : Workbook) :
    w.compile.diagnostics = w.ruleSheets.flatMap fun s => s.compile.diagnostics :=
  flatMap_compile Compiled.diagnostics rfl Compiled.append_diagnostics w

lemma exists_sound {w : Workbook} (h : w.compile.errors = []) {s : Sheet}
    (hs : s ∈ w.ruleSheets) : ∃ header, s.Sound header := by
  rw [compile_errors, List.flatMap_eq_nil_iff] at h
  exact Sheet.exists_sound (h s hs)

end Workbook

end DiscountTables
