import DiscountTables.Proofs.Compilation.Errors
import DiscountTables.Proofs.DecisionTable.Meaning
import DiscountTables.Proofs.Results

namespace DiscountTables

open Text

namespace Sheet

lemma trimmed_eq_empty (s : Sheet) {row column : ℕ}
    (h : ((s.rows[row]?).map List.length).getD 0 ≤ column) : s.trimmed row column = "" := by
  have hc : s.cell row column = "" := by
    simp only [cell]
    cases hr : s.rows[row]? with
    | none => rfl
    | some cells =>
      rw [hr, Option.map_some, Option.getD_some] at h
      simp [List.getElem?_eq_none h]
  rw [trimmed, hc]
  rfl

lemma column?_eq_ok_iff (s : Sheet) (header index : ℕ) (c : Column) :
    s.column? header index = some (.ok c) ↔ c.index = index ∧ s.trimmed (header + 1) index ≠ "" ∧
      s.trimmed (header + 3) index ≠ "" ∧
      Column.roleOf (s.trimmed (header + 1) index) (s.trimmed (header + 3) index) = .ok c.role := by
  obtain ⟨i, role⟩ := c
  simp only [column?, kindsOffset, templatesOffset]
  by_cases hk : s.trimmed (header + 1) index = ""
  · simp [hk]
  by_cases ht : s.trimmed (header + 3) index = ""
  · simp [hk, ht]
  cases hr : Column.roleOf (s.trimmed (header + 1) index) (s.trimmed (header + 3) index) with
  | ok r => simp [hk, ht, eq_comm]
  | error d => cases d <;> simp [hk, ht]

lemma column?_eq_none_iff (s : Sheet) (header index : ℕ) :
    s.column? header index = none ↔ s.trimmed (header + 1) index = "" := by
  simp only [column?, kindsOffset, templatesOffset]
  by_cases hk : s.trimmed (header + 1) index = ""
  · simp [hk]
  by_cases ht : s.trimmed (header + 3) index = ""
  · simp [hk, ht]
  cases hr : Column.roleOf (s.trimmed (header + 1) index) (s.trimmed (header + 3) index) with
  | ok r => simp [hk, ht]
  | error d => cases d <;> simp [hk, ht]

lemma mem_columns_iff (s : Sheet) (header : ℕ) (c : Column) :
    c ∈ s.columns header ↔ 1 ≤ c.index ∧ s.column? header c.index = some (.ok c) := by
  simp only [columns, columnReadings, List.mem_filterMap, List.mem_range'_1]
  constructor
  · rintro ⟨reading, ⟨i, hi, hr⟩, hc⟩
    cases reading with
    | error d => cases hc
    | ok c' =>
      obtain rfl : c' = c := Option.some.inj hc
      obtain rfl := ((s.column?_eq_ok_iff header i c').mp hr).1
      exact ⟨hi.1, hr⟩
  · rintro ⟨hi, hr⟩
    have hw : c.index < s.width header := by
      by_contra hn
      exact ((s.column?_eq_ok_iff header c.index c).mp hr).2.1 (s.trimmed_eq_empty (Nat.not_lt.mp hn))
    exact ⟨.ok c, ⟨c.index, ⟨hi, by omega⟩, hr⟩, rfl⟩

lemma columns_sorted (s : Sheet) (header : ℕ) :
    (s.columns header).Pairwise fun c d => c.index < d.index := by
  have hindex : ∀ i c, (s.column? header i).bind Except.toOption = some c → c.index = i := by
    intro i c hc
    obtain ⟨reading, hr, hc⟩ := Option.bind_eq_some_iff.mp hc
    cases reading with
    | error d => cases hc
    | ok c' =>
      obtain rfl : c' = c := Option.some.inj hc
      exact ((s.column?_eq_ok_iff header i c').mp hr).1
  rw [columns, columnReadings, List.filterMap_filterMap]
  refine List.Pairwise.filterMap _ ?_ List.pairwise_lt_range'
  intro i j hij c hc d hd
  rw [hindex i c hc, hindex j d hd]
  exact hij

lemma exists_mem_columns {s : Sheet} {header : ℕ} (h : s.columnDefects header = []) {index : ℕ}
    (hi : 1 ≤ index) (hk : s.trimmed (header + 1) index ≠ "") :
    ∃ role, (⟨index, role⟩ : Column) ∈ s.columns header := by
  have hw : index < s.width header := by
    by_contra hn
    exact hk (s.trimmed_eq_empty (Nat.not_lt.mp hn))
  have hmem : index ∈ List.range' 1 (s.width header - 1) := by
    rw [List.mem_range'_1]
    omega
  cases hc : s.column? header index with
  | none => exact absurd ((s.column?_eq_none_iff header index).mp hc) hk
  | some reading =>
    cases reading with
    | error d =>
      have hd : d ∈ s.columnDefects header := by
        simp only [columnDefects, List.mem_append, List.mem_filterMap]
        exact Or.inl (Or.inl ⟨.error d, List.mem_filterMap.mpr ⟨index, hmem, hc⟩, rfl⟩)
      rw [h] at hd
      cases hd
    | ok c =>
      obtain ⟨i, role⟩ := c
      obtain rfl : i = index := ((s.column?_eq_ok_iff header index _).mp hc).1
      exact ⟨role, (s.mem_columns_iff header _).mpr ⟨hi, hc⟩⟩

end Sheet

namespace Column

lemma roleOf_eq_condition_iff {kind template : String} {field : RequestField} {op : Template.Operator} :
    roleOf kind template = .ok (.condition field op) ↔ eqIgnoringCase kind "CONDITION" = true ∧
      ∃ owner, ConditionTemplate.read template = .ok ⟨field, op, owner⟩ := by
  simp only [roleOf]
  by_cases hc : eqIgnoringCase kind "CONDITION" = true
  · rw [if_pos hc]
    cases ht : ConditionTemplate.read template with
    | error e => simp
    | ok t =>
      obtain ⟨f, o, owner⟩ := t
      simp [hc]
  · rw [if_neg hc]
    split
    · split <;> simp [hc]
    · simp [hc]

lemma not_action_of_condition {kind : String} (h : eqIgnoringCase kind "CONDITION" = true) :
    ¬ eqIgnoringCase kind "ACTION" = true := by
  intro ha
  simp only [eqIgnoringCase, beq_iff_eq] at h ha
  exact absurd (h.symm.trans ha) (by decide)

lemma roleOf_eq_action_iff {kind template : String} {field : ResponseField} :
    roleOf kind template = .ok (.action field) ↔ eqIgnoringCase kind "ACTION" = true ∧
      ∃ owner, ActionTemplate.read template = .ok ⟨field, owner⟩ := by
  simp only [roleOf]
  by_cases hc : eqIgnoringCase kind "CONDITION" = true
  · have ha := not_action_of_condition hc
    rw [if_pos hc]
    split <;> simp [ha]
  · rw [if_neg hc]
    by_cases ha : eqIgnoringCase kind "ACTION" = true
    · rw [if_pos ha]
      cases ht : ActionTemplate.read template with
      | error e => simp
      | ok t =>
        obtain ⟨f, owner⟩ := t
        simp [ha]
    · simp [ha]

end Column

namespace RuleTable

variable (t : RuleTable)

lemma kind_ne_empty {t : RuleTable} {kind : String} {column : ℕ} (h : t.HasKind kind column)
    (hk : kind ≠ "") : t.kind column ≠ "" := by
  intro he
  have h := h.2
  rw [he] at h
  simp only [eqIgnoringCase, foldCase, beq_iff_eq, String.toList_empty, List.map_nil] at h
  exact hk (String.toList_eq_nil_iff.mp (List.map_eq_nil_iff.mp h.symm))

lemma mem_columns_iff_kind (c : Column) :
    c ∈ t.sheet.columns t.header ↔ 1 ≤ c.index ∧ t.kind c.index ≠ "" ∧ t.template c.index ≠ "" ∧
      Column.roleOf (t.kind c.index) (t.template c.index) = .ok c.role := by
  rw [t.sheet.mem_columns_iff, t.sheet.column?_eq_ok_iff]
  exact ⟨fun h => ⟨h.1, h.2.2⟩, fun h => ⟨h.1, rfl, h.2⟩⟩

lemma condition_iff (column : ℕ) (field : RequestField) (op : Template.Operator) :
    t.Condition column field op ↔ (⟨column, .condition field op⟩ : Column) ∈ t.sheet.columns t.header := by
  rw [mem_columns_iff_kind, Column.roleOf_eq_condition_iff]
  constructor
  · rintro ⟨hk, owner, ht⟩
    have htemplate : t.template column ≠ "" := by
      intro he
      have hn : (ConditionTemplate.read "").toOption = none := by decide
      rw [← he, ht] at hn
      cases hn
    exact ⟨hk.1, kind_ne_empty hk (by decide), htemplate, hk.2, owner, ht⟩
  · rintro ⟨hi, _, _, hk, ht⟩
    exact ⟨⟨hi, hk⟩, ht⟩

lemma action_iff (column : ℕ) (field : ResponseField) :
    t.Action column field ↔ (⟨column, .action field⟩ : Column) ∈ t.sheet.columns t.header := by
  rw [mem_columns_iff_kind, Column.roleOf_eq_action_iff]
  constructor
  · rintro ⟨hk, owner, ht⟩
    have htemplate : t.template column ≠ "" := by
      intro he
      have hn : (ActionTemplate.read "").toOption = none := by decide
      rw [← he, ht] at hn
      cases hn
    exact ⟨hk.1, kind_ne_empty hk (by decide), htemplate, hk.2, owner, ht⟩
  · rintro ⟨hi, _, _, hk, ht⟩
    exact ⟨⟨hi, hk⟩, ht⟩

end RuleTable

end DiscountTables
