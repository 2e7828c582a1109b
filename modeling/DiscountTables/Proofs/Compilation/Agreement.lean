import DiscountTables.Proofs.Compilation.Report

namespace DiscountTables

open Text

namespace Sheet

structure AgreesAt (s s' : Sheet) (header : ℕ) : Prop where
  name : s.name = s'.name
  titled : s.FirstTitled header
  titled' : s'.FirstTitled header
  blank : ∀ row, 9 ≤ row → s.isBlankRow row = s'.isBlankRow row
  title : s.trimmed header 0 = s'.trimmed header 0
  kind : ∀ column, 1 ≤ column → s.trimmed (header + 1) column = s'.trimmed (header + 1) column
  template : ∀ column, 1 ≤ column → s.trimmed (header + 1) column ≠ "" →
    s.trimmed (header + 3) column = s'.trimmed (header + 3) column
  code : ∀ row, 9 ≤ row → s.isBlankRow row = false → ∀ column, 1 ≤ column → column ≤ 5 →
    s.trimmed row column = s'.trimmed row column
  text : ∀ row, 9 ≤ row → s.isBlankRow row = false → ∀ column, 1 ≤ column →
    s.trimmed (header + 1) column ≠ "" → s.trimmed row column = s'.trimmed row column

def Agrees (s s' : Sheet) : Prop := ∃ header, s.AgreesAt s' header

lemma tableName?_congr {a b : String} (h : trim a = trim b) : tableName? a = tableName? b := by
  have hchars : trimChars a.toList = trimChars b.toList := by
    have hl := congrArg String.toList h
    rwa [trim, trim, String.toList_ofList, String.toList_ofList] at hl
  rw [tableName?, tableName?, hchars]

lemma columnReadings_eq (s : Sheet) (header n : ℕ) (hn : s.width header ≤ n + 1) :
    s.columnReadings header = (List.range' 1 n).filterMap (s.column? header) := by
  obtain ⟨k, rfl⟩ : ∃ k, n = (s.width header - 1) + k := ⟨n - (s.width header - 1), by omega⟩
  have hbeyond : (List.range' (1 + (s.width header - 1)) k).filterMap (s.column? header) = [] := by
    refine List.filterMap_eq_nil_iff.mpr fun column hc => ?_
    have hw : s.width header ≤ column := by
      rw [List.mem_range'_1] at hc
      omega
    exact (s.column?_eq_none_iff header column).mpr (s.trimmed_eq_empty hw)
  rw [columnReadings, ← List.range'_append_1, List.filterMap_append, hbeyond, List.append_nil]

lemma compileRows_congr {s s' : Sheet} {columns : List Column} (hname : s.name = s'.name) (table : String)
    (c : Compiled) (seen : List (String × ℕ)) {rows : List ℕ}
    (h : ∀ row ∈ rows, ∀ c ∈ columns, s.trimmed row c.index = s'.trimmed row c.index) :
    s.compileRows table columns c seen rows = s'.compileRows table columns c seen rows := by
  induction rows generalizing c seen with
  | nil => rfl
  | cons row rest ih =>
    obtain ⟨hrow, hrest⟩ := List.forall_mem_cons.mp h
    have hreadings : s.predicateReadings columns row = s'.predicateReadings columns row := by
      refine List.filterMap_congr fun c hc => ?_
      simp only [hrow c hc, defectAt, hname]
    have heffects : s.effects columns row = s'.effects columns row := by
      refine List.filterMap_congr fun c hc => ?_
      simp only [hrow c hc]
    simp only [compileRows, hreadings, heffects, oddityAt, hname, ih _ _ hrest]

namespace AgreesAt

variable {s s' : Sheet} {header : ℕ}

lemma dataRows_eq (h : s.AgreesAt s' header) : s.dataRows = s'.dataRows := by
  refine s.dataRows_sorted.eq_of_mem_iff s'.dataRows_sorted fun row => ?_
  rw [mem_dataRows_iff, mem_dataRows_iff]
  refine and_congr_right fun hrow => ?_
  rw [h.blank row hrow]

lemma defectAt_eq (h : s.AgreesAt s' header) (row : ℕ) (column : Option ℕ) (d : Defect) :
    s.defectAt row column d = s'.defectAt row column d := by
  rw [defectAt, defectAt, h.name]

lemma column?_eq (h : s.AgreesAt s' header) {column : ℕ} (hi : 1 ≤ column) :
    s.column? header column = s'.column? header column := by
  simp only [column?, kindsOffset, templatesOffset, h.defectAt_eq, ← h.kind column hi]
  by_cases hk : s.trimmed (header + 1) column = ""
  · simp only [if_pos hk]
  · simp only [if_neg hk, ← h.template column hi hk]

lemma columnReadings_eq (h : s.AgreesAt s' header) : s.columnReadings header = s'.columnReadings header := by
  have hleft := s.columnReadings_eq header (max (s.width header) (s'.width header)) (by omega)
  have hright := s'.columnReadings_eq header (max (s.width header) (s'.width header)) (by omega)
  rw [hleft, hright]
  refine List.filterMap_congr fun column hc => ?_
  exact h.column?_eq (List.mem_range'_1.mp hc).1

lemma columns_eq (h : s.AgreesAt s' header) : s.columns header = s'.columns header := by
  rw [columns, columns, h.columnReadings_eq]

lemma columnDefects_eq (h : s.AgreesAt s' header) : s.columnDefects header = s'.columnDefects header := by
  simp only [columnDefects, h.columnReadings_eq, h.columns_eq, h.defectAt_eq]

lemma tableName_eq (h : s.AgreesAt s' header) : s.tableName header = s'.tableName header := by
  rw [tableName, tableName, tableName?_congr h.title, h.name]

lemma compileRows_eq (h : s.AgreesAt s' header) (table : String) :
    s.compileRows table (s.columns header) {} [] s.dataRows =
      s'.compileRows table (s'.columns header) {} [] s'.dataRows := by
  rw [← h.columns_eq, ← h.dataRows_eq]
  refine compileRows_congr h.name table {} [] fun row hrow c hc => ?_
  obtain ⟨hrow, hblank⟩ := (s.mem_dataRows_iff row).mp hrow
  obtain ⟨hi, hcolumn⟩ := (s.mem_columns_iff header c).mp hc
  exact h.text row hrow hblank c.index hi ((s.column?_eq_ok_iff header c.index c).mp hcolumn).2.1

lemma compile_eq (h : s.AgreesAt s' header) : s.compile = s'.compile := by
  simp only [compile, compileInto, (s.firstTitled_iff header).mp h.titled, (s'.firstTitled_iff header).mp h.titled',
    h.columnDefects_eq, h.tableName_eq, h.compileRows_eq, h.defectAt_eq, h.name]

lemma violations_eq (h : s.AgreesAt s' header) : s.violations = s'.violations := by
  have hcolumns : ∀ rule ∈ columnRules, 1 ≤ rule.column ∧ rule.column ≤ 5 := by decide
  rw [violations, violations, ← h.dataRows_eq]
  refine List.flatMap_congr fun row hrow => List.filterMap_congr fun rule hrule => ?_
  obtain ⟨hrow, hblank⟩ := (s.mem_dataRows_iff row).mp hrow
  obtain ⟨hpos, hle⟩ := hcolumns rule hrule
  simp only [ColumnRule.check?, h.code row hrow hblank rule.column hpos hle, h.name]

end AgreesAt

end Sheet

namespace Workbook

variable {w w' : Workbook}

lemma compile_eq (h : List.Forall₂ Sheet.Agrees w.ruleSheets w'.ruleSheets) : w.compile = w'.compile := by
  rw [compile_eq_foldr, compile_eq_foldr]
  generalize w.ruleSheets = sheets, w'.ruleSheets = sheets' at h
  induction h with
  | nil => rfl
  | cons hs _ ih =>
    obtain ⟨_, hs⟩ := hs
    simp only [List.foldr_cons, ih, hs.compile_eq]

lemma violations_eq (h : List.Forall₂ Sheet.Agrees w.ruleSheets w'.ruleSheets) :
    w.violations = w'.violations := by
  simp only [violations]
  generalize w.ruleSheets = sheets, w'.ruleSheets = sheets' at h
  induction h with
  | nil => rfl
  | cons hs _ ih =>
    obtain ⟨_, hs⟩ := hs
    rw [List.flatMap_cons, List.flatMap_cons, ih, hs.violations_eq]

lemma ruleSet_eq (h : List.Forall₂ Sheet.Agrees w.ruleSheets w'.ruleSheets)
    (hfirst : ∀ s ∈ w.ruleSheets.head?, ∀ s' ∈ w'.ruleSheets.head?, s.trimmed 0 1 = s'.trimmed 0 1) :
    w.ruleSet = w'.ruleSet := by
  simp only [ruleSet]
  generalize w.ruleSheets = sheets, w'.ruleSheets = sheets' at h hfirst
  cases h with
  | nil => rfl
  | @cons s s' _ _ hs _ =>
    obtain ⟨_, hs⟩ := hs
    have hdeclared : s.declaredRuleSet = s'.declaredRuleSet := hfirst _ rfl _ rfl
    simp only [hdeclared, hs.name]

/-- Workbooks whose rule sheets agree on what is read load alike. The other sheets, what stands beside
the tables and the blanks around a text make no difference. -/
theorem load_congr (h : List.Forall₂ Sheet.Agrees w.ruleSheets w'.ruleSheets)
    (hfirst : ∀ s ∈ w.ruleSheets.head?, ∀ s' ∈ w'.ruleSheets.head?, s.trimmed 0 1 = s'.trimmed 0 1)
    (tag : String) : w.load tag = w'.load tag := by
  rw [load, load, validate, validate, violations_eq h, ruleSet_eq h hfirst, compile_eq h]

end Workbook

def tidySheet : Sheet := ⟨"Gold", [
  ["RuleSet", "loyalty"], [], [], [],
  ["RuleTable Gold"],
  ["", "CONDITION", "", "", "", "", "ACTION"],
  [],
  ["", "country", "", "", "", "", "discountPercentage"],
  [],
  ["", "AU", "NSW", "SYD", "GLD", "1", "0.5"]]⟩

def annotatedSheet : Sheet := ⟨"Gold", [
  ["ruleset", " loyalty ", "for gold members"], ["Notes", "none"], [], ["Rule Table"],
  ["RuleTable Gold ", "see below"],
  ["kinds", " CONDITION", " ", "", "", "", "ACTION", "", ""],
  ["", "request"],
  ["templates", "country ", "?", "?", "", "", " discountPercentage"],
  ["", "Country"],
  ["1", "AU", " NSW", "SYD", "GLD", "1 ", "0.5 ", "checked"],
  ["", ""], []]⟩

def tidyWorkbook : Workbook := ⟨[tidySheet]⟩

def annotatedWorkbook : Workbook := ⟨[⟨"Index", [["Gold", "this year"]]⟩, annotatedSheet]⟩

lemma tidySheet_agreesAt : tidySheet.AgreesAt annotatedSheet 4 := by
  have hrows : tidySheet.dataRows = [9] ∧ annotatedSheet.dataRows = [9] := by decide +kernel
  have hkind : ∀ column, 1 ≤ column → tidySheet.trimmed 5 column = annotatedSheet.trimmed 5 column := by
    intro column hi
    rcases Nat.lt_or_ge column 9 with hlt | hge
    · revert column
      decide +kernel
    · rw [Sheet.trimmed_eq_empty _ (hge.trans' (by decide)), Sheet.trimmed_eq_empty _ (hge.trans' (by decide))]
  have hused : ∀ column, 1 ≤ column → tidySheet.trimmed 5 column ≠ "" → column = 1 ∨ column = 6 := by
    intro column hi hk
    rcases Nat.lt_or_ge column 7 with hlt | hge
    · revert hi hk
      revert column
      decide +kernel
    · exact absurd (Sheet.trimmed_eq_empty _ (hge.trans' (by decide))) hk
  have hrow : ∀ row, 9 ≤ row → tidySheet.isBlankRow row = false → row = 9 := by
    intro row hr hb
    simpa [hrows] using (tidySheet.mem_dataRows_iff row).mpr ⟨hr, hb⟩
  have hblank : ∀ row, 9 ≤ row → (tidySheet.isBlankRow row = false ↔ annotatedSheet.isBlankRow row = false) := by
    intro row hr
    have hiff := (tidySheet.mem_dataRows_iff row).symm.trans
      ((by rw [hrows.1, hrows.2] : row ∈ tidySheet.dataRows ↔ row ∈ annotatedSheet.dataRows).trans
        (annotatedSheet.mem_dataRows_iff row))
    simpa [hr] using hiff
  refine ⟨rfl, ?_, ?_, ?_, by decide +kernel, hkind, ?_, ?_, ?_⟩
  · exact (tidySheet.firstTitled_iff 4).mpr (by decide +kernel)
  · exact (annotatedSheet.firstTitled_iff 4).mpr (by decide +kernel)
  · intro row hr
    rw [Bool.eq_iff_iff, ← Bool.not_eq_false, ← Bool.not_eq_false, hblank row hr]
  · intro column hi hk
    rcases hused column hi hk with rfl | rfl <;> decide +kernel
  · intro row hr hb column hi hle
    obtain rfl := hrow row hr hb
    revert column
    decide +kernel
  · intro row hr hb column hi hk
    obtain rfl := hrow row hr hb
    rcases hused column hi hk with rfl | rfl <;> decide +kernel

theorem load_annotatedWorkbook :
    List.Forall₂ Sheet.Agrees tidyWorkbook.ruleSheets annotatedWorkbook.ruleSheets ∧
      (tidyWorkbook.load "v1").toOption.isSome = true ∧
      tidyWorkbook.load "v1" = annotatedWorkbook.load "v1" := by
  have hleft : tidyWorkbook.ruleSheets = [tidySheet] := by decide +kernel
  have hright : annotatedWorkbook.ruleSheets = [annotatedSheet] := by decide +kernel
  have hagree : List.Forall₂ Sheet.Agrees tidyWorkbook.ruleSheets annotatedWorkbook.ruleSheets := by
    rw [hleft, hright]
    exact .cons ⟨4, tidySheet_agreesAt⟩ .nil
  refine ⟨hagree, by decide +kernel, Workbook.load_congr hagree ?_ "v1"⟩
  rw [hleft, hright]
  rintro s ⟨⟩ s' ⟨⟩
  decide +kernel

end DiscountTables
