import DiscountTables.Proofs.Compilation.Repetitions
import DiscountTables.Proofs.DecisionTable.RowRules

/-!
Which rows are reported for setting nothing, and which rule tables for having no data rows. The latter are those
without a row that becomes a rule, so that a table is reported too if it has rows and all of them have a pattern that
is not valid.
-/

namespace DiscountTables

def Diagnostic.isOddity (o : Oddity) (d : Diagnostic) : Bool := d.remark = .oddity o

namespace Sheet

structure BecomesRule (s : Sheet) (header row : ℕ) : Prop where
  data : s.IsDataRow row
  valid : ∀ column d, ¬ (s.table header).CellFault row column d

structure SetsNothing (s : Sheet) (header row : ℕ) : Prop where
  becomesRule : s.BecomesRule header row
  blank : ∀ column field, (s.table header).Action column field → s.trimmed row column = ""

variable {s : Sheet} {header row : ℕ}

def effectless? (s : Sheet) (columns : List Column) (row : ℕ) : Option Diagnostic :=
  if s.effects columns row = [] then some (s.oddityAt row .noEffects) else none

lemma rowDefects_eq_nil_iff (hrow : s.IsDataRow row) :
    s.rowDefects (s.columns header) row = [] ↔ ∀ column d, ¬ (s.table header).CellFault row column d := by
  rw [rowDefects_eq, List.filterMap_eq_nil_iff]
  constructor
  · intro h column d hd
    cases hd with
    | @badPattern field e _ hc hn he =>
      have hfault : s.cellFault? row ⟨column, .condition field .fits⟩ =
          some (s.defectAt row (some column) (.badPattern field e)) :=
        cellFault?_eq_some_iff.mpr ⟨field, e, rfl, hn, he, rfl⟩
      rw [h _ (((s.table header).condition_iff _ _ _).mp hc)] at hfault
      cases hfault
  · rintro h ⟨column, role⟩ hc
    refine Option.eq_none_iff_forall_ne_some.mpr fun d hd => ?_
    obtain ⟨field, e, rfl, hn, he, rfl⟩ := cellFault?_eq_some_iff.mp hd
    exact h column _ (.badPattern hrow.1 (((s.table header).condition_iff _ _ _).mpr hc) hn he)

lemma mem_ruleRows_iff : row ∈ s.ruleRows header ↔ s.BecomesRule header row := by
  rw [ruleRows, List.mem_filter, mem_dataRows_iff_isDataRow, List.isEmpty_iff]
  constructor
  · rintro ⟨hrow, hdefects⟩
    exact ⟨hrow, (rowDefects_eq_nil_iff hrow).mp hdefects⟩
  · rintro ⟨hrow, hvalid⟩
    exact ⟨hrow, (rowDefects_eq_nil_iff hrow).mpr hvalid⟩

lemma effects_eq_nil_iff : s.effects (s.columns header) row = [] ↔
    ∀ column field, (s.table header).Action column field → s.trimmed row column = "" := by
  refine (TableRow.enumerates_effects ⟨s.table header, row⟩).eq_nil_iff.trans ?_
  constructor
  · intro h column field ha
    by_contra hn
    exact h column ⟨field, s.trimmed row column⟩ ⟨ha, hn, rfl⟩
  · rintro h column e ⟨ha, hn, -⟩
    exact hn (h column _ ha)

lemma effectless?_eq_some_iff (hrow : row ∈ s.ruleRows header) (d : Diagnostic) :
    s.effectless? (s.columns header) row = some d ↔ s.SetsNothing header row ∧ d = s.oddityAt row .noEffects := by
  rw [effectless?, Option.ite_none_right_eq_some, effects_eq_nil_iff, Option.some.injEq, eq_comm (a := d)]
  refine and_congr_left' ⟨fun h => ⟨mem_ruleRows_iff.mp hrow, h⟩, SetsNothing.blank⟩

section Rows

variable (s) (table : String) (columns : List Column) (seen : List (String × ℕ)) (row) (rows : List ℕ)

lemma filter_isOddity_rowDefects (o : Oddity) : (s.rowDefects columns row).filter (Diagnostic.isOddity o) = [] := by
  refine List.filter_eq_nil_iff.mpr fun d hd => ?_
  have herror := isError_of_mem_rowDefects hd
  rw [Diagnostic.isError] at herror
  rw [Diagnostic.isOddity, decide_eq_true_eq]
  intro hremark
  rw [hremark] at herror
  cases herror

lemma filter_noEffects_rowOddities : (s.rowOddities columns seen row).filter (Diagnostic.isOddity .noEffects) =
    (s.effectless? columns row).toList := by
  rw [rowOddities, List.filter_append, effectless?]
  cases s.effects columns row <;> cases seen.lookup (s.conditionsText columns row) <;> rfl

lemma filter_noDataRows_rowOddities :
    (s.rowOddities columns seen row).filter (Diagnostic.isOddity .noDataRows) = [] := by
  rw [rowOddities, List.filter_append]
  cases s.effects columns row <;> cases seen.lookup (s.conditionsText columns row) <;> rfl

lemma filter_isOddity_compileRows {o : Oddity} {remarks : ℕ → List Diagnostic}
    (h : ∀ seen row, (s.rowOddities columns seen row).filter (Diagnostic.isOddity o) = remarks row) :
    (s.compileRows table columns {} seen rows).diagnostics.filter (Diagnostic.isOddity o) =
      (rows.filter fun row => (s.rowDefects columns row).isEmpty).flatMap remarks := by
  induction rows generalizing seen with
  | nil => rfl
  | cons row rest ih =>
    by_cases hrow : s.rowDefects columns row = []
    · rw [compileRows_cons_sound s table columns seen rest hrow, Compiled.append_diagnostics, List.filter_append,
        h, ih, List.filter_cons_of_pos (by simp [hrow]), List.flatMap_cons]
    · rw [compileRows_cons_broken s table columns seen rest hrow, Compiled.append_diagnostics, List.filter_append,
        filter_isOddity_rowDefects, ih, List.filter_cons_of_neg (by simp [hrow]), List.nil_append]

lemma filter_noEffects_compileRows :
    (s.compileRows table columns {} seen rows).diagnostics.filter (Diagnostic.isOddity .noEffects) =
      (rows.filter fun row => (s.rowDefects columns row).isEmpty).filterMap (s.effectless? columns) := by
  have hremarks := fun seen row => s.filter_noEffects_rowOddities row columns seen
  rw [filter_isOddity_compileRows s table columns seen rows hremarks, List.filterMap_eq_flatMap_toList]

lemma filter_noDataRows_compileRows :
    (s.compileRows table columns {} seen rows).diagnostics.filter (Diagnostic.isOddity .noDataRows) = [] := by
  have hremarks := fun seen row => s.filter_noDataRows_rowOddities row columns seen
  rw [filter_isOddity_compileRows s table columns seen rows hremarks]
  exact List.flatMap_eq_nil_iff.mpr fun _ _ => rfl

end Rows

section Compiled

variable (hs : s.Readable header)
include hs

lemma compile_rules_readable :
    s.compile.rules = (s.ruleRows header).map (s.rowDraft (s.tableName header) (s.columns header)) := by
  obtain ⟨hheader, hroom, hcolumns⟩ := readable_iff.mp hs
  exact (compile_of_header hheader (Nat.lt_of_le_of_lt (Nat.add_le_add_right hroom 3) (by decide)) hcolumns).2

lemma compile_diagnostics_readable : s.compile.diagnostics =
    (s.compileRows (s.tableName header) (s.columns header) {} [] s.dataRows).diagnostics ++
      if s.ruleRows header = [] then [s.noRowsRemark] else [] := by
  obtain ⟨hheader, hroom, hcolumns⟩ := readable_iff.mp hs
  have hroom : header + templatesOffset < firstDataRow := by
    simp only [firstDataRow, templatesOffset]
    omega
  have hempty : (s.compileRows (s.tableName header) (s.columns header) {} [] s.dataRows).rules = [] ↔
      s.ruleRows header = [] := by
    rw [compileRows_rules, List.map_eq_nil_iff, ruleRows]
  rw [compile_readable hheader hroom hcolumns, Compiled.append_diagnostics]
  simp only [hempty]

lemma mem_noRowsRemark_iff : s.noRowsRemark ∈ s.compile.diagnostics ↔ ∀ row, ¬ s.BecomesRule header row := by
  have hfilter : s.noRowsRemark ∈ s.compile.diagnostics ↔
      s.noRowsRemark ∈ s.compile.diagnostics.filter (Diagnostic.isOddity .noDataRows) := by
    rw [List.mem_filter, and_iff_left]
    rfl
  have hnone : s.ruleRows header = [] ↔ ∀ row, ¬ s.BecomesRule header row := by
    simp only [List.eq_nil_iff_forall_not_mem, mem_ruleRows_iff]
  rw [hfilter, compile_diagnostics_readable hs, List.filter_append, filter_noDataRows_compileRows, List.nil_append,
    ← hnone]
  split
  · rename_i h
    exact iff_of_true (List.mem_singleton.mpr rfl) h
  · rename_i h
    exact iff_of_false List.not_mem_nil h

lemma enumerates_noEffects : Enumerates (fun row d => s.SetsNothing header row ∧ d = s.oddityAt row .noEffects)
    (s.compile.diagnostics.filter (Diagnostic.isOddity .noEffects)) := by
  have hrows : s.compile.diagnostics.filter (Diagnostic.isOddity .noEffects) =
      (s.ruleRows header).filterMap (s.effectless? (s.columns header)) := by
    rw [compile_diagnostics_readable hs, List.filter_append, filter_noEffects_compileRows, ← ruleRows]
    split <;> exact List.append_nil _
  rw [hrows]
  refine enumerates_filterMap id (s.ruleRows_sorted header) fun row d => ?_
  constructor
  · rintro ⟨hnothing, hd⟩
    have hrow := mem_ruleRows_iff.mpr hnothing.becomesRule
    exact ⟨row, hrow, rfl, (effectless?_eq_some_iff hrow d).mpr ⟨hnothing, hd⟩⟩
  · rintro ⟨_, hrow, rfl, hd⟩
    exact (effectless?_eq_some_iff hrow d).mp hd

lemma exists_rule_iff (row : ℕ) :
    (∃ rule ∈ s.compile.rules, rule.name = s.tableName header ++ "_" ++ toString (row + 1)) ↔
      s.BecomesRule header row := by
  rw [compile_rules_readable hs, ← mem_ruleRows_iff]
  simp only [List.mem_map, exists_exists_and_eq_and]
  constructor
  · rintro ⟨row', hrow, hname⟩
    obtain rfl := Nat.succ.inj (TableRow.numbered_inj hname).2
    exact hrow
  · intro hrow
    exact ⟨row, hrow, rfl⟩

end Compiled

end Sheet

/-- The rule rows without effects are reported, each once. A rule table is reported as one without data rows if none of
them becomes a rule, which is true of it unless it has data rows and none of them is valid. -/
theorem Workbook.reportsOddities {w : Workbook} {s : Sheet} {header : ℕ} (hs : s ∈ w.ruleSheets)
    (ht : s.Readable header) :
    s.compile.diagnostics <:+: w.compile.diagnostics ∧
    (∀ row, (∃ rule ∈ s.compile.rules, rule.name = s.tableName header ++ "_" ++ toString (row + 1)) ↔
      s.BecomesRule header row) ∧
    Enumerates (fun row d => s.SetsNothing header row ∧ d = s.oddityAt row .noEffects)
      (s.compile.diagnostics.filter (Diagnostic.isOddity .noEffects)) ∧
    (s.noRowsRemark ∈ s.compile.diagnostics ↔ ∀ row, ¬ s.BecomesRule header row) ∧
    ((s.noRowsRemark ∈ s.compile.diagnostics ↔ ∀ row, ¬ s.IsDataRow row) ↔
      ((∃ row, s.IsDataRow row) → ∃ row, s.BecomesRule header row)) := by
  have hnone := Sheet.mem_noRowsRemark_iff ht
  refine ⟨?_, Sheet.exists_rule_iff ht, Sheet.enumerates_noEffects ht, hnone, ?_⟩
  · rw [compile_diagnostics, List.flatMap_def]
    exact List.infix_of_mem_flatten (List.mem_map_of_mem hs)
  · rw [hnone, ← not_exists, ← not_exists, not_iff_not]
    exact ⟨Iff.mpr, fun h => ⟨fun ⟨row, hrow⟩ => ⟨row, hrow.data⟩, h⟩⟩

def mixedStates : Sheet :=
  ⟨"Discounts", (stateSheet "(").rows ++ [["", "NSW", " "], [], ["", "VIC", "0.6"]]⟩

theorem reportsOddities_mixedStates :
    mixedStates ∈ (⟨[mixedStates]⟩ : Workbook).ruleSheets ∧ mixedStates.Readable 4 ∧
    mixedStates.BecomesRule 4 12 ∧
    Enumerates (fun row d => mixedStates.SetsNothing 4 row ∧ d = mixedStates.oddityAt row .noEffects)
      [mixedStates.oddityAt 10 .noEffects] ∧
    (mixedStates.noRowsRemark ∈ mixedStates.compile.diagnostics ↔ ∀ row, ¬ mixedStates.IsDataRow row) := by
  have hs : mixedStates ∈ (⟨[mixedStates]⟩ : Workbook).ruleSheets := by decide +kernel
  have ht : mixedStates.Readable 4 := by decide +kernel
  obtain ⟨-, hrules, hlists, -, htrue⟩ := Workbook.reportsOddities hs ht
  have hrule : mixedStates.BecomesRule 4 12 := (hrules 12).mp (by decide +kernel)
  have hremarks : mixedStates.compile.diagnostics.filter (Diagnostic.isOddity .noEffects) =
      [mixedStates.oddityAt 10 .noEffects] := by decide +kernel
  exact ⟨hs, ht, hrule, hremarks ▸ hlists, htrue.mpr fun _ => ⟨12, hrule⟩⟩

theorem reportsOddities_brokenState :
    stateSheet "(" ∈ (stateWorkbook "(").ruleSheets ∧ (stateSheet "(").Readable 4 ∧ (stateSheet "(").IsDataRow 9 ∧
    (stateSheet "(").noRowsRemark ∈ (stateWorkbook "(").compile.diagnostics :=
  ⟨by decide +kernel, by decide +kernel, Sheet.mem_dataRows_iff_isDataRow.mp (by decide +kernel), by decide +kernel⟩

end DiscountTables
