import DiscountTables.Proofs.Compilation.Report
import DiscountTables.Proofs.Pattern.WholeText

namespace DiscountTables

namespace Sheet

variable {s : Sheet} {header row column : ℕ} {field : RequestField}

structure Readable (s : Sheet) (header : ℕ) : Prop where
  titled : s.FirstTitled header
  room : header ≤ 5
  columns : (s.table header).ColumnReport []

structure PatternCell (s : Sheet) (header row column : ℕ) (field : RequestField) : Prop where
  below : 9 ≤ row
  condition : (s.table header).Condition column field .fits
  filled : s.trimmed row column ≠ ""

lemma readable_iff : s.Readable header ↔
    s.headerRow? = some header ∧ header ≤ 5 ∧ s.columnDefects header = [] := by
  rw [← firstTitled_iff, ← columnReport_table]
  exact ⟨fun h => ⟨h.titled, h.room, h.columns⟩, fun h => ⟨h.1, h.2.1, h.2.2⟩⟩

instance (s : Sheet) (header : ℕ) : Decidable (s.Readable header) := decidable_of_iff _ readable_iff.symm

lemma patternCell_iff : s.PatternCell header row column field ↔
    9 ≤ row ∧ (⟨column, .condition field .fits⟩ : Column) ∈ s.columns header ∧ s.trimmed row column ≠ "" := by
  have hc := (s.table header).condition_iff column field .fits
  exact ⟨fun h => ⟨h.below, hc.mp h.condition, h.filled⟩, fun h => ⟨h.1, hc.mpr h.2.1, h.2.2⟩⟩

instance (s : Sheet) (header row column : ℕ) (field : RequestField) :
    Decidable (s.PatternCell header row column field) := decidable_of_iff _ patternCell_iff.symm

namespace PatternCell

variable (h : s.PatternCell header row column field)
include h

lemma mem_dataRows : row ∈ s.dataRows := (s.mem_dataRows_iff row).mpr ⟨h.below, isBlankRow_eq_false h.filled⟩

lemma mem_columns : (⟨column, .condition field .fits⟩ : Column) ∈ s.columns header := (patternCell_iff.mp h).2.1

lemma mem_errors_iff (hs : s.Readable header) (e : Pattern.Invalid) :
    s.defectAt row (some column) (.badPattern field e) ∈ s.compile.errors ↔
      Pattern.ofCell (s.trimmed row column) = .error e := by
  obtain ⟨hheader, hroom, hcolumns⟩ := readable_iff.mp hs
  rw [errors_of_cells hheader hroom hcolumns]
  simp only [List.mem_flatMap, rowDefects_eq, List.mem_filterMap, cellFault?_eq_some_iff]
  constructor
  · rintro ⟨row', -, ⟨column', role⟩, -, field', e', -, -, he, hd⟩
    simp only [defectAt, Diagnostic.mk.injEq, Option.some.injEq, Remark.defect.injEq,
      Defect.badPattern.injEq, true_and] at hd
    obtain ⟨rfl, rfl, -, rfl⟩ := hd
    exact he
  · intro he
    exact ⟨row, h.mem_dataRows, _, h.mem_columns, field, e, rfl, h.filled, he, rfl⟩

end PatternCell

end Sheet

namespace Workbook

variable {w : Workbook} {s : Sheet} {header row column : ℕ} {field : RequestField}

lemma isInfix_errors (hs : s ∈ w.ruleSheets) : s.compile.errors <:+: w.compile.errors := by
  rw [compile_errors, List.flatMap_def]
  exact List.infix_of_mem_flatten (List.mem_map_of_mem hs)

lemma exists_rule (hs : s ∈ w.ruleSheets) (ht : s.Readable header) (hrow : row ∈ s.dataRows)
    {ruleSet tag : String} {base : RuleBase} (hb : w.compile.ruleBase ruleSet tag = .ok base) :
    s.Sound header ∧ ∃ rule ∈ base.rules,
      rule.draft = s.rowDraft (s.tableName header) (s.columns header) row := by
  rw [Compiled.ruleBase_eq] at hb
  split at hb
  · rename_i herrors
    cases hb
    obtain ⟨header', hsound⟩ := w.exists_sound herrors hs
    obtain rfl := Option.some.inj (hsound.marked.symm.trans (Sheet.readable_iff.mp ht).1)
    have hmem : s.rowDraft (s.tableName header') (s.columns header') row ∈ w.compile.rules := by
      rw [compile_rules, List.mem_flatMap]
      exact ⟨s, hs, hsound.rules ▸ List.mem_map_of_mem hrow⟩
    rw [← RuleBase.map_draft_ofDrafts ruleSet tag w.compile.rules] at hmem
    obtain ⟨rule, hrule, hdraft⟩ := List.mem_map.mp hmem
    exact ⟨hsound, rule, hrule, hdraft⟩
  · cases hb

/-- A cell that does not reach out of its group is reported just if its own text is not a pattern. Where there
is a rule base, the rule of its row has a predicate for it, which holds for the requests whose field is matched
by that pattern as a whole. -/
theorem compile_patternCell (hs : s ∈ w.ruleSheets) (ht : s.Readable header)
    (h : s.PatternCell header row column field) (hc : Pattern.SelfContained (s.trimmed row column)) :
    s.compile.errors <:+: w.compile.errors ∧
    ((∃ e, s.defectAt row (some column) (.badPattern field e) ∈ s.compile.errors) ↔
      ∃ e, Pattern.ofText (s.trimmed row column) = .error e) ∧
    ∀ ruleSet tag base, w.compile.ruleBase ruleSet tag = .ok base →
      ∃ own, Pattern.ofText (s.trimmed row column) = .ok own ∧
      ∃ rule ∈ base.rules, rule.name = s.tableName header ++ "_" ++ toString (row + 1) ∧
      ∃ p ∈ rule.predicates, Sheet.predicate field .fits (s.trimmed row column) = .ok p ∧
        ∀ request, p.holds request = true ↔ own.FitsWhole (request.get field) := by
  refine ⟨isInfix_errors hs, ?_, ?_⟩
  · simp only [h.mem_errors_iff ht]
    rw [exists_error_iff, exists_error_iff, hc.exists_ofCell_iff]
  · intro ruleSet tag base hb
    obtain ⟨hsound, rule, hrule, hdraft⟩ := exists_rule hs ht h.mem_dataRows hb
    obtain ⟨p, hp⟩ := Sheet.exists_predicate (hsound.valid row h.mem_dataRows) h.mem_columns h.filled
    obtain ⟨q, hq, rfl⟩ := map_eq_ok.mp hp
    obtain ⟨own, hown⟩ := hc.exists_ofCell_iff.mp ⟨q, hq⟩
    refine ⟨own, hown, rule, hrule, congrArg RuleDraft.name hdraft, _, ?_, hp, ?_⟩
    · have hpredicates : rule.predicates = _ := congrArg RuleDraft.predicates hdraft
      rw [hpredicates]
      exact Sheet.mem_predicates_iff.mpr ⟨column, field, .fits, h.mem_columns, h.filled, hp⟩
    · intro request
      exact hc.occursIn_ofCell_iff hown hq _

end Workbook

def stateSheet (cell : String) : Sheet := ⟨"Discounts", [
  ["RuleSet", "loyalty"], [], [], [],
  ["RuleTable Discounts"],
  ["", "CONDITION", "ACTION"],
  [],
  ["", "state matches $param", "discountPercentage"],
  [],
  ["", cell, "0.5"]]⟩

def stateWorkbook (cell : String) : Workbook := ⟨[stateSheet cell]⟩

theorem compile_state_alternatives :
    (stateSheet "NSW|VIC").Readable 4 ∧ (stateSheet "NSW|VIC").PatternCell 4 9 1 .state ∧
    Pattern.SelfContained "NSW|VIC" ∧
    ∃ base, (stateWorkbook "NSW|VIC").compile.ruleBase "loyalty" "v1" = .ok base ∧
    ∃ own, Pattern.ofText "NSW|VIC" = .ok own ∧
    ∃ rule ∈ base.rules, rule.name = "Discounts_10" ∧
    ∃ p ∈ rule.predicates, ∀ request, p.holds request = true ↔ own.FitsWhole request.state := by
  have hsheet : stateSheet "NSW|VIC" ∈ (stateWorkbook "NSW|VIC").ruleSheets := by decide +kernel
  have hr : (stateSheet "NSW|VIC").Readable 4 := by decide +kernel
  have hp : (stateSheet "NSW|VIC").PatternCell 4 9 1 .state := by decide +kernel
  have hcell : (stateSheet "NSW|VIC").trimmed 9 1 = "NSW|VIC" := by decide +kernel
  have hname : (stateSheet "NSW|VIC").tableName 4 = "Discounts" := by decide +kernel
  have hc : Pattern.SelfContained "NSW|VIC" := by decide +kernel
  obtain ⟨base, hb⟩ : ∃ base, (stateWorkbook "NSW|VIC").compile.ruleBase "loyalty" "v1" = .ok base :=
    isSome_toOption_iff.mp (by decide +kernel)
  have hrules := (Workbook.compile_patternCell hsheet hr hp (by rwa [hcell])).2.2
  obtain ⟨own, hown, rule, hrule, hn, p, hmem, -, hholds⟩ := hrules "loyalty" "v1" base hb
  rw [hcell] at hown
  rw [hname] at hn
  exact ⟨hr, hp, hc, base, hb, own, hown, rule, hrule, hn, p, hmem, hholds⟩

/-- Without the condition, a text that is no pattern can become one that a part of a field matches, and a
pattern can become none. -/
theorem compile_state_reaching_out :
    ((stateSheet "NSW)|(?:VIC").Readable 4 ∧ (stateSheet "NSW)|(?:VIC").PatternCell 4 9 1 .state ∧
      (∃ e, Pattern.ofText "NSW)|(?:VIC" = .error e) ∧
      ∃ base answer, (stateWorkbook "NSW)|(?:VIC").compile.ruleBase "loyalty" "v1" = .ok base ∧
        base.evaluate ⟨"AU", "NSW and more", "SYD", "GLD", "1"⟩ = .ok answer ∧
        answer.fired = ["Discounts_10"]) ∧
    (stateSheet "(?x)NSW # note").Readable 4 ∧ (stateSheet "(?x)NSW # note").PatternCell 4 9 1 .state ∧
      (∃ own, Pattern.ofText "(?x)NSW # note" = .ok own) ∧
      ∃ e, (stateSheet "(?x)NSW # note").defectAt 9 (some 1) (.badPattern .state e) ∈
        (stateWorkbook "(?x)NSW # note").compile.errors := by
  constructor
  · refine ⟨by decide +kernel, by decide +kernel, ?_, ?_⟩
    · rw [exists_error_iff, ← isSome_toOption_iff]
      decide +kernel
    · have hfired : ((stateWorkbook "NSW)|(?:VIC").compile.ruleBase "loyalty" "v1").toOption.bind (fun base =>
          (base.evaluate ⟨"AU", "NSW and more", "SYD", "GLD", "1"⟩).toOption.map Evaluation.fired) =
            some ["Discounts_10"] := by
        decide +kernel
      obtain ⟨base, hb, hfired⟩ := Option.bind_eq_some_iff.mp hfired
      obtain ⟨answer, ha, hfired⟩ := Option.map_eq_some_iff.mp hfired
      exact ⟨base, answer, toOption_eq_some_iff.mp hb, toOption_eq_some_iff.mp ha, hfired⟩
  · have hr : (stateSheet "(?x)NSW # note").Readable 4 := by decide +kernel
    have hp : (stateSheet "(?x)NSW # note").PatternCell 4 9 1 .state := by decide +kernel
    have hsheet : stateSheet "(?x)NSW # note" ∈ (stateWorkbook "(?x)NSW # note").ruleSheets := by
      decide +kernel
    refine ⟨hr, hp, isSome_toOption_iff.mp (by decide +kernel), ?_⟩
    obtain ⟨e, he⟩ : ∃ e, Pattern.ofCell ((stateSheet "(?x)NSW # note").trimmed 9 1) = .error e := by
      rw [exists_error_iff, ← isSome_toOption_iff]
      decide +kernel
    exact ⟨e, (Workbook.isInfix_errors hsheet).subset ((hp.mem_errors_iff hr e).mpr he)⟩

end DiscountTables
