import DiscountTables.Sheet.Basic
import Mathlib.Tactic

namespace DiscountTables.Sheet

open Text

variable {s : Sheet} {row column : ℕ}

def IsDataRow (s : Sheet) (row : ℕ) : Prop := 9 ≤ row ∧ ∃ column, s.cell row column ≠ ""

lemma cell_eq (s : Sheet) (row column : ℕ) : s.cell row column = ((s.rows[row]?.getD [])[column]?).getD "" := by
  rw [cell]
  cases s.rows[row]? <;> simp

lemma isBlankRow_eq (s : Sheet) (row : ℕ) : s.isBlankRow row = (s.rows[row]?.getD []).all (· == "") := by
  rw [isBlankRow]
  cases s.rows[row]? <;> rfl

lemma isBlankRow_eq_false_iff : s.isBlankRow row = false ↔ ∃ column, s.cell row column ≠ "" := by
  rw [← Bool.not_eq_true, isBlankRow_eq, List.all_eq_true, not_forall]
  simp only [cell_eq]
  constructor
  · rintro ⟨text, htext⟩
    obtain ⟨hmem, hne⟩ := Classical.not_imp.mp htext
    obtain ⟨column, hcolumn⟩ := List.mem_iff_getElem?.mp hmem
    exact ⟨column, by simpa [hcolumn] using hne⟩
  · rintro ⟨column, hne⟩
    cases hcolumn : (s.rows[row]?.getD [])[column]? with
    | none => simp [hcolumn] at hne
    | some text => exact ⟨text, by simpa [hcolumn, List.mem_of_getElem? hcolumn] using hne⟩

lemma isBlankRow_eq_false (h : s.trimmed row column ≠ "") : s.isBlankRow row = false := by
  refine isBlankRow_eq_false_iff.mpr ⟨column, fun hempty => h ?_⟩
  rw [trimmed, hempty]
  rfl

lemma dataRows_sorted (s : Sheet) : s.dataRows.Pairwise (· < ·) := List.pairwise_lt_range.filter _

lemma mem_dataRows_iff (s : Sheet) (row : ℕ) : row ∈ s.dataRows ↔ 9 ≤ row ∧ s.isBlankRow row = false := by
  simp only [dataRows, List.mem_filter, List.mem_range, Bool.and_eq_true, Bool.not_eq_true', decide_eq_true_eq]
  constructor
  · exact fun h => h.2
  · intro h
    refine ⟨?_, h⟩
    by_contra hn
    simp [isBlankRow, List.getElem?_eq_none (Nat.not_lt.mp hn)] at h

lemma mem_dataRows_iff_isDataRow : row ∈ s.dataRows ↔ s.IsDataRow row := by
  rw [mem_dataRows_iff, isBlankRow_eq_false_iff, IsDataRow]

end DiscountTables.Sheet
