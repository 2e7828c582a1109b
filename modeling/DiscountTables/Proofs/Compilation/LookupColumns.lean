import DiscountTables.Proofs.Compilation.Append
import DiscountTables.Proofs.Compilation.Report
import DiscountTables.Proofs.Evaluation
import DiscountTables.Proofs.Pattern.Plain
import DiscountTables.Proofs.Template.Operator

/-!
In the lookup columns of a workbook that passes validation, which hold codes, a cell as a pattern and a cell as a text
are the same test.
-/

namespace DiscountTables

open Text

namespace CodeForm

def most : CodeForm → ℕ
  | capitals _ most | digits _ most => most

variable {form : CodeForm} {code : String}

lemma length_le_most (h : form.accepts code = true) : code.toList.length ≤ form.most := by
  cases form with
  | capitals least most | digits least most =>
    simp only [accepts, Bool.and_eq_true, decide_eq_true_eq] at h
    exact h.1.2

lemma isPlain (h : form.accepts code = true) : Pattern.IsPlain code.toList := by
  intro c hc hmeta
  have hcode : isCapital c = true ∨ Unicode.isDecimalDigit c = true := by
    cases form with
    | capitals least most =>
      simp only [accepts, Bool.and_eq_true, List.all_eq_true] at h
      exact Or.inl (h.2 c hc)
    | digits least most =>
      simp only [accepts, Bool.and_eq_true, List.all_eq_true] at h
      exact Or.inr (h.2 c hc)
  have hall : Pattern.metacharacters.all (fun d => !isCapital d && !Unicode.isDecimalDigit d) = true := by decide
  have hnone := List.all_eq_true.mp hall c hmeta
  simp only [Bool.and_eq_true, Bool.not_eq_true'] at hnone
  simp [hnone] at hcode

end CodeForm

namespace Sheet

def testsPattern (s : Sheet) (header index : ℕ) : Bool :=
  eqIgnoringCase (s.trimmed (header + kindsOffset) index) "CONDITION" &&
    match Template.condition (s.trimmed (header + templatesOffset) index).toList with
    | .ok c => c.operator == .fits
    | .error _ => false

def rewords (s : Sheet) (chosen : ℕ → Bool) (header index : ℕ) : Bool :=
  (1 ≤ index && index ≤ 5) && chosen index && s.testsPattern header index

/-- The sheet with `==` for `matches` in the chosen lookup columns. A table without room for its templates has no
columns. -/
def withEqual (s : Sheet) (chosen : ℕ → Bool) : Sheet :=
  match s.headerRow? with
  | none => s
  | some header =>
    if firstDataRow ≤ header + templatesOffset then s
    else
      { s with
        rows := s.rows.modify (header + templatesOffset) fun cells =>
          cells.mapIdx fun i cell => if s.rewords chosen header i then Template.withEqual cell else cell }

end Sheet

def Workbook.withEqual (w : Workbook) (chosen : ℕ → ℕ → Bool) : Workbook where
  sheets := w.sheets.mapIdx fun i s => s.withEqual (chosen i)

namespace Sheet

variable {s : Sheet} {chosen : ℕ → Bool} {header : ℕ}

structure Roomy (s : Sheet) (header : ℕ) : Prop where
  marked : s.headerRow? = some header
  room : header + templatesOffset < firstDataRow

lemma withEqual_eq_or (s : Sheet) (chosen : ℕ → Bool) : s.withEqual chosen = s ∨ ∃ header, s.Roomy header := by
  rw [withEqual]
  split
  · exact Or.inl rfl
  · rename_i header hh
    split
    · exact Or.inl rfl
    · rename_i hr
      exact Or.inr ⟨header, hh, Nat.not_le.mp hr⟩

namespace Roomy

variable (h : s.Roomy header)

include h

lemma rows_withEqual (row : ℕ) : (s.withEqual chosen).rows[row]? =
    if row = header + templatesOffset then
      s.rows[row]?.map fun cells =>
        cells.mapIdx fun i cell => if s.rewords chosen header i then Template.withEqual cell else cell
    else s.rows[row]? := by
  simp only [withEqual, h.marked, if_neg (Nat.not_le.mpr h.room), List.getElem?_modify]
  by_cases hrow : row = header + templatesOffset
  · simp [hrow]
  · simp [hrow, Ne.symm hrow]

lemma cell_withEqual (row index : ℕ) : (s.withEqual chosen).cell row index =
    if row = header + templatesOffset ∧ s.rewords chosen header index = true then
      Template.withEqual (s.cell row index)
    else s.cell row index := by
  have hempty : Template.withEqual "" = "" := by decide
  rw [cell, cell, h.rows_withEqual]
  by_cases hrow : row = header + templatesOffset
  · simp only [hrow, true_and]
    cases s.rows[header + templatesOffset]? with
    | none => simp [hempty]
    | some cells => rcases hcell : cells[index]? with _ | text <;> simp [hcell, hempty]
  · simp [hrow]

lemma trimmed_withEqual {row index : ℕ}
    (hcell : row = header + templatesOffset → s.rewords chosen header index = false) :
    (s.withEqual chosen).trimmed row index = s.trimmed row index := by
  rw [trimmed, trimmed, h.cell_withEqual, if_neg]
  rintro ⟨hrow, hrewords⟩
  simp [hcell hrow] at hrewords

lemma trimmed_data_withEqual {row : ℕ} (hrow : firstDataRow ≤ row) (index : ℕ) :
    (s.withEqual chosen).trimmed row index = s.trimmed row index :=
  h.trimmed_withEqual fun heq => absurd h.room (by omega)

lemma headerRow?_withEqual : (s.withEqual chosen).headerRow? = some header := by
  have hfirst : ∀ row, (s.withEqual chosen).cell row 0 = s.cell row 0 := by
    intro row
    rw [h.cell_withEqual]
    simp [rewords]
  simp only [← h.marked, headerRow?, hfirst]

lemma isBlankRow_withEqual {row : ℕ} (hrow : firstDataRow ≤ row) :
    (s.withEqual chosen).isBlankRow row = s.isBlankRow row := by
  rw [isBlankRow, isBlankRow, h.rows_withEqual, if_neg]
  rintro rfl
  exact absurd h.room (by omega)

lemma dataRows_withEqual : (s.withEqual chosen).dataRows = s.dataRows := by
  refine (s.withEqual chosen).dataRows_sorted.eq_of_mem_iff s.dataRows_sorted fun row => ?_
  rw [mem_dataRows_iff, mem_dataRows_iff]
  refine and_congr_right fun hrow => ?_
  rw [h.isBlankRow_withEqual hrow]

lemma width_withEqual : (s.withEqual chosen).width header = s.width header := by
  rw [width, width, h.rows_withEqual, if_neg (by simp [kindsOffset, templatesOffset])]

end Roomy

lemma name_withEqual (s : Sheet) (chosen : ℕ → Bool) : (s.withEqual chosen).name = s.name := by
  rw [withEqual]
  split
  · rfl
  · split <;> rfl

lemma trimmed_withEqual_of_row {row : ℕ} (hrow : row = 0 ∨ firstDataRow ≤ row) (index : ℕ) :
    (s.withEqual chosen).trimmed row index = s.trimmed row index := by
  obtain heq | ⟨header, h⟩ := s.withEqual_eq_or chosen
  · rw [heq]
  · apply h.trimmed_withEqual
    have hroom := h.room
    rw [templatesOffset] at hroom ⊢
    omega

lemma isRuleSheet_withEqual (s : Sheet) (chosen : ℕ → Bool) : (s.withEqual chosen).isRuleSheet = s.isRuleSheet := by
  rw [isRuleSheet, isRuleSheet, trimmed_withEqual_of_row (Or.inl rfl)]

lemma violations_withEqual (s : Sheet) (chosen : ℕ → Bool) : (s.withEqual chosen).violations = s.violations := by
  obtain heq | ⟨header, h⟩ := s.withEqual_eq_or chosen
  · rw [heq]
  rw [violations, violations, h.dataRows_withEqual]
  refine List.flatMap_congr fun row hrow => List.filterMap_congr fun rule _ => ?_
  have hrow := ((s.mem_dataRows_iff row).mp hrow).1
  simp only [ColumnRule.check?, h.trimmed_data_withEqual hrow, name_withEqual]

end Sheet

def Column.withEqual (given : ℕ → Bool) (c : Column) : Column :=
  match c.role with
  | .condition field _ => if given c.index then ⟨c.index, .condition field .equal⟩ else c
  | .action _ => c

namespace Sheet

variable {s : Sheet} {chosen : ℕ → Bool} {header : ℕ}

lemma testsPattern_iff {index : ℕ} : s.testsPattern header index = true ↔
    eqIgnoringCase (s.trimmed (header + kindsOffset) index) "CONDITION" = true ∧
      ∃ c, Template.condition (s.trimmed (header + templatesOffset) index).toList = .ok c ∧ c.operator = .fits := by
  rw [testsPattern, Bool.and_eq_true]
  apply and_congr_right
  intro _
  split
  · rename_i c hc
    simp [hc]
  · rename_i e he
    simp [he]

lemma ne_empty_of_condition {text : String} {c : Template.Condition} (h : Template.condition text.toList = .ok c) :
    text ≠ "" := by
  rintro rfl
  cases h

lemma column?_withEqual (h : s.Roomy header) (index : ℕ) : (s.withEqual chosen).column? header index =
    (s.column? header index).map fun reading => reading.map (Column.withEqual (s.rewords chosen header)) := by
  have hkind : (s.withEqual chosen).trimmed (header + kindsOffset) index = s.trimmed (header + kindsOffset) index :=
    h.trimmed_withEqual fun heq => by simp [kindsOffset, templatesOffset] at heq
  cases hr : s.rewords chosen header index with
  | false =>
    have htemplate : (s.withEqual chosen).trimmed (header + templatesOffset) index =
        s.trimmed (header + templatesOffset) index := h.trimmed_withEqual fun _ => hr
    have hid : ∀ role, Column.withEqual (s.rewords chosen header) ⟨index, role⟩ = ⟨index, role⟩ := by
      intro role
      cases role <;> simp [Column.withEqual, hr]
    simp only [column?, hkind, htemplate, defectAt, name_withEqual]
    split
    · rfl
    · split
      · rfl
      · cases Column.roleOf (s.trimmed (header + kindsOffset) index) (s.trimmed (header + templatesOffset) index) with
        | ok role => simp [Except.map, hid]
        | error d => cases d <;> rfl
  | true =>
    have htests : s.testsPattern header index = true := by
      simp only [rewords, Bool.and_eq_true] at hr
      exact hr.2
    obtain ⟨hcondition, c, hc, hop⟩ := testsPattern_iff.mp htests
    have htemplate : (s.withEqual chosen).trimmed (header + templatesOffset) index =
        trim (Template.withEqual (s.cell (header + templatesOffset) index)) := by
      rw [trimmed, h.cell_withEqual, if_pos ⟨rfl, hr⟩]
    -- The template was read with `matches`, if its field is known; the new one has the same field.
    have hread := ConditionTemplate.read_withEqual hc hop
    have hne := ne_empty_of_condition hc
    have hne' := ne_empty_of_condition (Template.condition_withEqual hc hop)
    simp only [column?, hkind, htemplate, if_neg hne, if_neg hne', Column.roleOf, if_pos hcondition, hread, defectAt,
      name_withEqual]
    split
    · rfl
    · rw [trimmed]
      cases ConditionTemplate.read (trim (s.cell (header + templatesOffset) index)) with
      | error e => rfl
      | ok t => simp [Except.map, Column.withEqual, hr]

lemma columnReadings_withEqual (h : s.Roomy header) : (s.withEqual chosen).columnReadings header =
    (s.columnReadings header).map fun reading => reading.map (Column.withEqual (s.rewords chosen header)) := by
  rw [columnReadings, columnReadings, h.width_withEqual, List.map_filterMap]
  exact List.filterMap_congr fun index _ => column?_withEqual h index

lemma columns_withEqual (h : s.Roomy header) : (s.withEqual chosen).columns header =
    (s.columns header).map (Column.withEqual (s.rewords chosen header)) := by
  rw [columns, columns, columnReadings_withEqual h, List.filterMap_map, List.map_filterMap]
  refine List.filterMap_congr fun reading _ => ?_
  cases reading <;> rfl

lemma columnDefects_withEqual (h : s.Roomy header) :
    (s.withEqual chosen).columnDefects header = s.columnDefects header := by
  have hcondition : ∀ c : Column, (c.withEqual (s.rewords chosen header)).isCondition = c.isCondition := by
    rintro ⟨index, ⟨field, op⟩ | field⟩
    · simp only [Column.withEqual]
      cases s.rewords chosen header index <;> rfl
    · rfl
  refine congrArg₂ (· ++ ·) (congrArg₂ (· ++ ·) ?_ ?_) ?_
  · rw [columnReadings_withEqual h, List.filterMap_map]
    refine List.filterMap_congr fun reading _ => ?_
    cases reading <;> rfl
  · simp only [columns_withEqual h, List.any_map, Function.comp_def, hcondition, defectAt, name_withEqual]
  · simp only [columns_withEqual h, List.any_map, Function.comp_def, hcondition, defectAt, name_withEqual]

end Sheet

def SameTest : Except Diagnostic Predicate → Except Diagnostic Predicate → Prop
  | .ok p, .ok q => ∀ r, p.holds r = q.holds r
  | .error d, .error e => d = e
  | _, _ => False

lemma SameTest.refl (reading : Except Diagnostic Predicate) : SameTest reading reading := by
  cases reading with
  | ok p => exact fun r => rfl
  | error d => rfl

lemma CodeForm.sameTest {form : CodeForm} {code : String} (h : form.accepts code = true) (hl : form.most ≤ 1000)
    (field : RequestField) : ∃ p, Sheet.predicate field .fits code = .ok p ∧
      ∀ r, p.holds r = (Predicate.equals field code).holds r := by
  obtain ⟨q, hq, hfits⟩ := Pattern.exists_ofCell_plain (isPlain h) ((length_le_most h).trans hl)
  exact ⟨.fits field q, by rw [Sheet.predicate, hq]; rfl, fun r => hfits _⟩

lemma exists_columnRule {index : ℕ} (h : 1 ≤ index) (h' : index ≤ 5) :
    ∃ rule ∈ columnRules, rule.column = index ∧ rule.form.most ≤ 1000 := by
  interval_cases index <;> decide

lemma forall₂_filterMap {α β γ : Type} {R : β → γ → Prop} {f : α → Option β} {g : α → Option γ} {l : List α}
    (h : ∀ x ∈ l, Option.Rel R (f x) (g x)) : List.Forall₂ R (l.filterMap f) (l.filterMap g) := by
  induction l with
  | nil => exact .nil
  | cons x l ih =>
    obtain ⟨hx, hl⟩ := List.forall_mem_cons.mp h
    rw [List.filterMap_cons, List.filterMap_cons]
    generalize f x = a, g x = b at hx
    cases hx with
    | some hab => exact .cons hab (ih hl)
    | none => exact ih hl

namespace Sheet

variable {s : Sheet} {chosen : ℕ → Bool} {header row : ℕ}

def HasCodes (s : Sheet) (row : ℕ) : Prop :=
  ∀ rule ∈ columnRules, rule.form.accepts (s.trimmed row rule.column) = true

lemma hasCodes_of_violations (h : s.violations = []) : ∀ row ∈ s.dataRows, s.HasCodes row := by
  intro row hrow rule hrule
  rw [violations, List.flatMap_eq_nil_iff] at h
  have hcheck := List.filterMap_eq_nil_iff.mp (h row hrow) rule hrule
  rw [ColumnRule.check?] at hcheck
  by_contra hn
  simp [hn] at hcheck

lemma operator_eq_fits {c : Column} {field : RequestField} {op : Template.Operator} (hc : c ∈ s.columns header)
    (hrole : c.role = .condition field op) (ht : s.testsPattern header c.index = true) : op = .fits := by
  obtain ⟨-, t, ht, hop⟩ := testsPattern_iff.mp ht
  have hcolumn := ((s.column?_eq_ok_iff header c.index c).mp ((s.mem_columns_iff header c).mp hc).2).2.2.2
  rw [hrole, Column.roleOf_eq_condition_iff] at hcolumn
  obtain ⟨-, owner, hread⟩ := hcolumn
  have ht : Template.condition (s.trimmed (header + 3) c.index).toList = .ok t := ht
  rw [ConditionTemplate.read, ht] at hread
  simp only at hread
  split at hread
  · cases hread
  · cases hread
    exact hop

lemma reading?_withEqual_of_kept (h : s.Roomy header) (hrow : firstDataRow ≤ row) (c : Column) :
    (s.withEqual chosen).reading? row c = s.reading? row c := by
  simp only [reading?, h.trimmed_data_withEqual hrow, defectAt, name_withEqual]

lemma rel_reading? (h : s.Roomy header) (hrow : firstDataRow ≤ row) (hcodes : s.HasCodes row) {c : Column}
    (hc : c ∈ s.columns header) : Option.Rel SameTest (s.reading? row c)
      ((s.withEqual chosen).reading? row (c.withEqual (s.rewords chosen header))) := by
  rw [reading?_withEqual_of_kept h hrow]
  obtain ⟨index, ⟨field, op⟩ | field⟩ := c
  · cases hr : s.rewords chosen header index with
    | false =>
      rw [Column.withEqual]
      simp only [hr, Bool.false_eq_true, if_false]
      cases s.reading? row ⟨index, .condition field op⟩ with
      | none => exact .none
      | some reading => exact .some (SameTest.refl reading)
    | true =>
      simp only [Column.withEqual, hr, if_true]
      simp only [rewords, Bool.and_eq_true, decide_eq_true_eq] at hr
      obtain ⟨⟨⟨hpos, hle⟩, -⟩, ht⟩ := hr
      -- The column was read with `matches`, and its cell has passed the check of the lookup column it is in.
      obtain rfl := operator_eq_fits hc rfl ht
      obtain ⟨rule, hrule, rfl, hmost⟩ := exists_columnRule hpos hle
      obtain ⟨p, hp, hholds⟩ := CodeForm.sameTest (hcodes rule hrule) hmost field
      simp only [reading?, hp]
      by_cases hcell : s.trimmed row rule.column = ""
      · rw [if_pos hcell, if_pos hcell]
        exact .none
      · rw [if_neg hcell, if_neg hcell]
        exact .some hholds
  · exact .none

lemma predicateReadings_withEqual (h : s.Roomy header) (hrow : firstDataRow ≤ row) (hcodes : s.HasCodes row) :
    List.Forall₂ SameTest (s.predicateReadings (s.columns header) row)
      ((s.withEqual chosen).predicateReadings ((s.withEqual chosen).columns header) row) := by
  rw [columns_withEqual h, predicateReadings_eq, predicateReadings_eq, List.filterMap_map]
  exact forall₂_filterMap fun c hc => rel_reading? h hrow hcodes hc

def effect? (s : Sheet) (row : ℕ) (c : Column) : Option Effect :=
  match c.role with
  | .condition .. => none
  | .action field => if s.trimmed row c.index = "" then none else some ⟨field, s.trimmed row c.index⟩

lemma effect?_withEqual (h : s.Roomy header) (hrow : firstDataRow ≤ row) (given : ℕ → Bool) (c : Column) :
    (s.withEqual chosen).effect? row (c.withEqual given) = s.effect? row c := by
  obtain ⟨index, ⟨field, op⟩ | field⟩ := c
  · cases hgiven : given index <;> simp [Column.withEqual, effect?, hgiven]
  · simp only [Column.withEqual, effect?, h.trimmed_data_withEqual hrow]

lemma effects_withEqual (h : s.Roomy header) (hrow : firstDataRow ≤ row) :
    (s.withEqual chosen).effects ((s.withEqual chosen).columns header) row = s.effects (s.columns header) row := by
  rw [columns_withEqual h]
  change List.filterMap ((s.withEqual chosen).effect? row) _ = List.filterMap (s.effect? row) _
  rw [List.filterMap_map]
  exact List.filterMap_congr fun c _ => effect?_withEqual h hrow _ c

end Sheet

structure RuleDraft.SameRule (d e : RuleDraft) : Prop where
  name : d.name = e.name
  effects : d.effects = e.effects
  applies : ∀ r, d.applies r = e.applies r

lemma RuleDraft.SameRule.refl (d : RuleDraft) : d.SameRule d := ⟨rfl, rfl, fun _ => rfl⟩

namespace Sheet

variable {s : Sheet} {chosen : ℕ → Bool} {header row : ℕ}

lemma rowDefects_withEqual (h : s.Roomy header) (hrow : firstDataRow ≤ row) (hcodes : s.HasCodes row) :
    (s.withEqual chosen).rowDefects ((s.withEqual chosen).columns header) row =
      s.rowDefects (s.columns header) row := by
  have hreadings : List.Forall₂ SameTest (s.predicateReadings (s.columns header) row)
      ((s.withEqual chosen).predicateReadings ((s.withEqual chosen).columns header) row) :=
    predicateReadings_withEqual h hrow hcodes
  simp only [rowDefects]
  generalize s.predicateReadings (s.columns header) row = readings,
    (s.withEqual chosen).predicateReadings ((s.withEqual chosen).columns header) row = readings' at hreadings
  induction hreadings with
  | nil => rfl
  | @cons x y _ _ hxy _ ih => cases x <;> cases y <;> simp_all [SameTest]

lemma sameRule_rowDraft (h : s.Roomy header) (hrow : firstDataRow ≤ row) (hcodes : s.HasCodes row) (table : String) :
    (s.rowDraft table (s.columns header) row).SameRule
      ((s.withEqual chosen).rowDraft table ((s.withEqual chosen).columns header) row) := by
  refine ⟨by simp only [rowDraft], by simp only [rowDraft, effects_withEqual h hrow], fun r => ?_⟩
  have hreadings : List.Forall₂ SameTest (s.predicateReadings (s.columns header) row)
      ((s.withEqual chosen).predicateReadings ((s.withEqual chosen).columns header) row) :=
    predicateReadings_withEqual h hrow hcodes
  simp only [RuleDraft.applies, rowDraft]
  generalize s.predicateReadings (s.columns header) row = readings,
    (s.withEqual chosen).predicateReadings ((s.withEqual chosen).columns header) row = readings' at hreadings
  induction hreadings with
  | nil => rfl
  | @cons x y _ _ hxy _ ih => cases x <;> cases y <;> simp_all [SameTest, Except.toOption]

lemma tableName_withEqual (h : s.Roomy header) : (s.withEqual chosen).tableName header = s.tableName header := by
  have hcell : (s.withEqual chosen).cell header 0 = s.cell header 0 := by
    rw [h.cell_withEqual]
    simp [rewords]
  rw [tableName, tableName, hcell, name_withEqual]

lemma compile_withEqual (hcodes : ∀ row ∈ s.dataRows, s.HasCodes row) :
    (s.withEqual chosen).compile.errors = s.compile.errors ∧
      List.Forall₂ RuleDraft.SameRule s.compile.rules (s.withEqual chosen).compile.rules := by
  obtain heq | ⟨header, h⟩ := s.withEqual_eq_or chosen
  · rw [heq]
    exact ⟨rfl, List.forall₂_same.mpr fun d _ => .refl d⟩
  have hmarked : (s.withEqual chosen).headerRow? = some header := h.headerRow?_withEqual
  have hdefects : (s.withEqual chosen).columnDefects header = s.columnDefects header := columnDefects_withEqual h
  by_cases hc : s.columnDefects header = []
  · obtain ⟨herrors, hrules⟩ := compile_of_header h.marked h.room hc
    obtain ⟨herrors', hrules'⟩ := compile_of_header hmarked h.room (hdefects.trans hc)
    have hrow : ∀ row ∈ s.dataRows, firstDataRow ≤ row := fun row hrow => ((s.mem_dataRows_iff row).mp hrow).1
    have hsame : ∀ row ∈ s.dataRows, (s.withEqual chosen).rowDefects ((s.withEqual chosen).columns header) row =
        s.rowDefects (s.columns header) row := fun row hmem => rowDefects_withEqual h (hrow row hmem) (hcodes row hmem)
    have hfilter : (s.dataRows.filter fun row =>
        ((s.withEqual chosen).rowDefects ((s.withEqual chosen).columns header) row).isEmpty) =
        s.dataRows.filter fun row => (s.rowDefects (s.columns header) row).isEmpty :=
      List.filter_congr fun row hmem => by rw [hsame row hmem]
    rw [herrors, herrors', hrules, hrules', h.dataRows_withEqual, tableName_withEqual h, hfilter]
    refine ⟨List.flatMap_congr hsame, ?_⟩
    rw [List.forall₂_map_left_iff, List.forall₂_map_right_iff, List.forall₂_same]
    intro row hmem
    have hmem := List.mem_of_mem_filter hmem
    exact sameRule_rowDraft h (hrow row hmem) (hcodes row hmem) _
  · -- With a defect in a column the rows are not read, on either sheet.
    rw [compile_unreadable h.marked h.room hc, compile_unreadable hmarked h.room (hdefects.trans_ne hc), hdefects]
    exact ⟨rfl, .nil⟩

end Sheet

def Sheet.Reworded (s s' : Sheet) : Prop := ∃ chosen, s.withEqual chosen = s'

lemma Workbook.reworded_withEqual (w : Workbook) (chosen : ℕ → ℕ → Bool) :
    List.Forall₂ Sheet.Reworded w.ruleSheets (w.withEqual chosen).ruleSheets := by
  have hsheets : List.Forall₂ Sheet.Reworded w.sheets (w.withEqual chosen).sheets := by
    rw [List.forall₂_iff_get]
    refine ⟨by simp [withEqual], fun i hi hi' => ⟨chosen i, ?_⟩⟩
    simp [withEqual]
  rw [ruleSheets, ruleSheets]
  generalize w.sheets = sheets, (w.withEqual chosen).sheets = sheets' at hsheets
  induction hsheets with
  | nil => exact .nil
  | @cons s _ _ _ hs _ ih =>
    obtain ⟨c, rfl⟩ := hs
    rw [List.filter_cons, List.filter_cons, Sheet.isRuleSheet_withEqual]
    split
    · exact .cons ⟨c, rfl⟩ ih
    · exact ih

namespace Workbook

variable {w w' : Workbook} (h : List.Forall₂ Sheet.Reworded w.ruleSheets w'.ruleSheets)

include h

lemma ruleSet_congr : w'.ruleSet = w.ruleSet := by
  rw [ruleSet, ruleSet]
  generalize w.ruleSheets = sheets, w'.ruleSheets = sheets' at h
  cases h with
  | nil => rfl
  | @cons s _ _ _ hs _ =>
    obtain ⟨c, rfl⟩ := hs
    have hdeclared : (s.withEqual c).declaredRuleSet = s.declaredRuleSet :=
      Sheet.trimmed_withEqual_of_row (Or.inl rfl) 1
    simp only [hdeclared, Sheet.name_withEqual]

lemma violations_congr : w'.violations = w.violations := by
  rw [violations, violations]
  generalize w.ruleSheets = sheets, w'.ruleSheets = sheets' at h
  induction h with
  | nil => rfl
  | cons hs _ ih =>
    obtain ⟨c, rfl⟩ := hs
    rw [List.flatMap_cons, List.flatMap_cons, Sheet.violations_withEqual, ih]

lemma compile_congr (hv : w.violations = []) :
    w'.compile.errors = w.compile.errors ∧ List.Forall₂ RuleDraft.SameRule w.compile.rules w'.compile.rules := by
  rw [violations] at hv
  rw [compile_errors, compile_errors, compile_rules, compile_rules]
  generalize w.ruleSheets = sheets, w'.ruleSheets = sheets' at h hv
  induction h with
  | nil => exact ⟨rfl, .nil⟩
  | @cons s _ _ _ hs _ ih =>
    obtain ⟨c, rfl⟩ := hs
    rw [List.flatMap_cons, List.append_eq_nil_iff] at hv
    have hcodes := Sheet.hasCodes_of_violations hv.1
    obtain ⟨herrors, hrules⟩ : (s.withEqual c).compile.errors = s.compile.errors ∧
        List.Forall₂ RuleDraft.SameRule s.compile.rules (s.withEqual c).compile.rules := Sheet.compile_withEqual hcodes
    obtain ⟨ihErrors, ihRules⟩ := ih hv.2
    simp only [List.flatMap_cons]
    exact ⟨by rw [herrors, ihErrors], List.rel_append hrules ihRules⟩

end Workbook

lemma evaluate_ofDrafts_congr (ruleSet tag : String) {ds es : List RuleDraft}
    (h : List.Forall₂ RuleDraft.SameRule ds es) (r : Request) :
    (RuleBase.ofDrafts ruleSet tag ds).evaluate r = (RuleBase.ofDrafts ruleSet tag es).evaluate r := by
  have hfiring : List.Forall₂ (fun x y : Rule => x.draft.SameRule y.draft)
      ((RuleBase.ofDrafts ruleSet tag ds).firing r) ((RuleBase.ofDrafts ruleSet tag es).firing r) := by
    refine List.rel_filter ?_ ?_
    · intro x y hxy
      exact Bool.eq_iff_iff.mp (hxy.applies r)
    · rwa [← RuleBase.map_draft_ofDrafts ruleSet tag ds, ← RuleBase.map_draft_ofDrafts ruleSet tag es,
        List.forall₂_map_left_iff, List.forall₂_map_right_iff] at h
  rw [RuleBase.evaluate, RuleBase.evaluate]
  generalize (RuleBase.ofDrafts ruleSet tag ds).firing r = fired,
    (RuleBase.ofDrafts ruleSet tag es).firing r = fired' at hfiring
  have hnames : fired'.map (·.name) = fired.map (·.name) := by
    induction hfiring with
    | nil => rfl
    | @cons x y _ _ hxy _ ih =>
      have hname : x.name = y.name := hxy.name
      rw [List.map_cons, List.map_cons, ih, hname]
  have hresponse : ∀ response : Response, fired'.foldl (fun response rule => rule.fire response) response =
      fired.foldl (fun response rule => rule.fire response) response := by
    clear hnames
    induction hfiring with
    | nil => exact fun _ => rfl
    | @cons x y _ _ hxy _ ih =>
      have heffects : x.effects = y.effects := hxy.effects
      intro response
      rw [List.foldl_cons, List.foldl_cons, Rule.fire, Rule.fire, heffects, ih]
  cases hfiring with
  | nil => rfl
  | cons _ _ => simp only [hnames, hresponse, RuleBase.versionTag_ofDrafts]

def SameLoading : Except LoadError RuleBase → Except LoadError RuleBase → Prop
  | .ok base, .ok base' => ∀ r, base.evaluate r = base'.evaluate r
  | .error e, .error e' => e = e'
  | _, _ => False

/-- In the lookup columns the operators `matches` and `==` are the same. -/
theorem Workbook.sameLoading_withEqual (w : Workbook) (chosen : ℕ → ℕ → Bool) (tag : String) :
    SameLoading (w.load tag) ((w.withEqual chosen).load tag) := by
  have hsheets := w.reworded_withEqual chosen
  rw [load, load, validate, validate, violations_congr hsheets, ruleSet_congr hsheets]
  cases hv : w.violations with
  | cons v vs => exact rfl
  | nil =>
    -- From here on every rule sheet holds codes; what validation lets through is compiled alike.
    obtain ⟨herrors, hrules⟩ := compile_congr hsheets hv
    cases w.ruleSet with
    | error e => exact rfl
    | ok ruleSet =>
      change SameLoading ((w.compile.ruleBase ruleSet tag).mapError .compile)
        (((w.withEqual chosen).compile.ruleBase ruleSet tag).mapError .compile)
      rw [Compiled.ruleBase_eq, Compiled.ruleBase_eq, herrors]
      split
      · exact evaluate_ofDrafts_congr ruleSet tag hrules
      · exact rfl

example :
    let pattern := "country matches \"$param\""
    let kinds := ["", "Condition", "CONDITION", "", "", "", "CONDITION"]
    ((Sheet.mk "Gold" [["RuleSet"], ["RuleTable"], kinds, [], ["", pattern, pattern, "", "", "", pattern]]).withEqual
      (· != 2)).rows[4]? = some ["", "country == \"$param\"", pattern, "", "", "", pattern] := by
  decide +kernel

end DiscountTables
