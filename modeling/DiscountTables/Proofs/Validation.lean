import DiscountTables.Validation
import DiscountTables.Proofs.Enumeration
import DiscountTables.Proofs.Sheet
import DiscountTables.Proofs.Pattern.WholeText

namespace DiscountTables

open Sheet Unicode Pattern

def Consists (least most : ℕ) (p : Char → Prop) (text : String) : Prop :=
  least ≤ text.toList.length ∧ text.toList.length ≤ most ∧ ∀ c ∈ text.toList, p c

def IsCode (column : ℕ) (text : String) : Prop :=
  match column with
  | 1 => Consists 2 2 (fun c => 'A' ≤ c ∧ c ≤ 'Z') text
  | 2 => Consists 2 3 (fun c => 'A' ≤ c ∧ c ≤ 'Z') text
  | 3 => Consists 3 3 (fun c => 'A' ≤ c ∧ c ≤ 'Z') text
  | 4 => Consists 3 3 (fun c => 'A' ≤ c ∧ c ≤ 'Z') text
  | 5 => Consists 1 2 (fun c => isDecimalDigit c = true) text
  | _ => True

def Sheet.Violates (s : Sheet) (cell : ℕ ×ₗ ℕ) (v : CellViolation) : Prop :=
  let row := (ofLex cell).1
  let column := (ofLex cell).2
  s.IsDataRow row ∧ ¬ IsCode column (s.trimmed row column) ∧ ∃ rule ∈ columnRules, rule.column = column ∧
    v = ⟨s.name, row + 1, column, rule.message, s.trimmed row column⟩

/-- The violation `v` is that of a cell of a rule sheet, which is given by its position among all sheets. -/
def Workbook.Violates (w : Workbook) (place : ℕ ×ₗ ℕ ×ₗ ℕ) (v : CellViolation) : Prop :=
  ∃ s, w.sheets[(ofLex place).1]? = some s ∧ s.isRuleSheet = true ∧ s.Violates (ofLex place).2 v

namespace Pattern

variable {t : List Char} {set : CharSet}

lemma chain_set_iff {n i : ℕ} :
    Chain (Spans t (.set set)) n i t.length ↔ i + n = t.length ∧ ∀ c ∈ t.drop i, set.contains c = true := by
  induction n generalizing i with
  | zero =>
    simp only [Chain, Nat.add_zero, iff_self_and]
    rintro rfl
    simp
  | succ n ih =>
    simp only [Chain]
    constructor
    · rintro ⟨j, hspan, hrest⟩
      cases hspan with
      | set hc hset =>
        obtain ⟨hi, rfl⟩ := List.getElem?_eq_some_iff.mp hc
        obtain ⟨hlength, hall⟩ := ih.mp hrest
        rw [List.drop_eq_getElem_cons hi]
        exact ⟨by omega, List.forall_mem_cons.mpr ⟨hset, hall⟩⟩
    · rintro ⟨hlength, hall⟩
      have hi : i < t.length := by omega
      rw [List.drop_eq_getElem_cons hi] at hall
      obtain ⟨hset, hall⟩ := List.forall_mem_cons.mp hall
      exact ⟨i + 1, .set (List.getElem?_eq_getElem hi) hset, ih.mpr ⟨by omega, hall⟩⟩

def counted (least most : ℕ) (set : CharSet) : Node :=
  .sequence (.look .start) (.sequence (.repetition ⟨least, some most⟩ (.set set)) (.look .finish))

lemma occursIn_counted_iff {p : Pattern} {least most : ℕ} (hp : p.node = counted least most set) (text : String) :
    p.occursIn text = true ↔ Consists least most (fun c => set.contains c = true) text := by
  simp only [occursIn_iff_spans, hp, counted, spans_between_iff, spans_repetition, Nat.zero_le, true_and,
    chain_set_iff, Nat.zero_add, List.drop_zero, Option.mem_def, Option.some.injEq, forall_eq', Consists]
  constructor
  · rintro ⟨_, _, rfl, rfl, n, hleast, hmost, rfl, hall⟩
    exact ⟨hleast, hmost, hall⟩
  · rintro ⟨hleast, hmost, hall⟩
    exact ⟨_, _, rfl, rfl, _, hleast, hmost, rfl, hall⟩

end Pattern

namespace CodeForm

def capitalSet : CharSet := ⟨[65, 91]⟩

def node : CodeForm → Node
  | capitals least most => counted least most capitalSet
  | digits least most => counted least most Category.decimalNumberSet

lemma contains_capitalSet_iff (c : Char) : capitalSet.contains c = true ↔ 'A' ≤ c ∧ c ≤ 'Z' := by
  have hfirst : 'A' ≤ c ↔ 65 ≤ c.toNat := Iff.rfl
  have hlast : c ≤ 'Z' ↔ c.toNat ≤ 90 := Iff.rfl
  rw [hfirst, hlast, CharSet.contains, CharSet.holds, capitalSet]
  simp only [CharSet.holdsAfter]
  split_ifs <;> simp <;> omega

lemma accepts_iff_occursIn {form : CodeForm} {p : Pattern} (hp : p.node = form.node) (code : String) :
    form.accepts code = true ↔ p.occursIn code = true := by
  cases form with
  | capitals least most =>
    simp [occursIn_counted_iff hp, contains_capitalSet_iff, accepts, isCapital, Consists, and_assoc]
  | digits least most =>
    simp [occursIn_counted_iff hp, accepts, isDecimalDigit, Consists, and_assoc]

end CodeForm

lemma accepts_iff_isCode {rule : ColumnRule} (hrule : rule ∈ columnRules) (code : String) :
    rule.form.accepts code = true ↔ IsCode rule.column code := by
  fin_cases hrule <;> simp [CodeForm.accepts, IsCode, Consists, isCapital, and_assoc]

lemma exists_pattern {rule : ColumnRule} (hrule : rule ∈ columnRules) :
    ∃ p, ofText rule.form.pattern = .ok p ∧ ∀ code, p.occursIn code = true ↔ IsCode rule.column code := by
  have hread : ∀ rule ∈ columnRules,
      Node.read rule.form.pattern = .ok rule.form.node ∧ rule.form.node.fits = true := by decide +kernel
  obtain ⟨p, hp⟩ := exists_ofText_iff.mpr ⟨_, hread rule hrule⟩
  have hnode := Except.ok.inj ((read_of_ofText hp).symm.trans (hread rule hrule).1)
  refine ⟨p, hp, fun code => ?_⟩
  rw [← CodeForm.accepts_iff_occursIn hnode, accepts_iff_isCode hrule]

lemma exists_rule_of_not_isCode {column : ℕ} {text : String} (h : ¬ IsCode column text) :
    ∃ rule ∈ columnRules, rule.column = column := by
  unfold IsCode at h
  split at h
  · exact ⟨_, .head _, rfl⟩
  · exact ⟨_, .tail _ (.head _), rfl⟩
  · exact ⟨_, .tail _ (.tail _ (.head _)), rfl⟩
  · exact ⟨_, .tail _ (.tail _ (.tail _ (.head _))), rfl⟩
  · exact ⟨_, .tail _ (.tail _ (.tail _ (.tail _ (.head _)))), rfl⟩
  · exact absurd trivial h

lemma ColumnRule.check?_eq_some_iff {rule : ColumnRule} (hrule : rule ∈ columnRules) {s : Sheet} {row : ℕ}
    {v : CellViolation} : rule.check? s row = some v ↔ ¬ IsCode rule.column (s.trimmed row rule.column) ∧
      v = ⟨s.name, row + 1, rule.column, rule.message, s.trimmed row rule.column⟩ := by
  rw [← accepts_iff_isCode hrule, check?]
  split_ifs with h <;> simp [h, eq_comm]

namespace Sheet

variable (s : Sheet)

lemma enumerates_violations : Enumerates s.Violates s.violations := by
  have hcolumns : columnRules.Pairwise fun a b => a.column < b.column := by decide
  have hrow : ∀ row ∈ s.dataRows, Enumerates (fun column v => ∃ rule ∈ columnRules, rule.column = column ∧
      rule.check? s row = some v) (columnRules.filterMap fun rule => rule.check? s row) :=
    fun row _ => enumerates_filterMap ColumnRule.column hcolumns fun _ _ => Iff.rfl
  rw [violations]
  refine enumerates_flatMap id s.dataRows_sorted hrow fun row column v => ?_
  simp only [Violates, ofLex_toLex, id_eq, ← mem_dataRows_iff_isDataRow]
  constructor
  · rintro ⟨hmem, hcode, rule, hrule, rfl, hv⟩
    exact ⟨row, hmem, rfl, rule, hrule, rfl, (ColumnRule.check?_eq_some_iff hrule).mpr ⟨hcode, hv⟩⟩
  · rintro ⟨_, hmem, rfl, rule, hrule, rfl, hv⟩
    obtain ⟨hcode, hv⟩ := (ColumnRule.check?_eq_some_iff hrule).mp hv
    exact ⟨hmem, hcode, rule, hrule, rfl, hv⟩

end Sheet

namespace Workbook

variable (w : Workbook)

lemma enumerates_violations : Enumerates w.Violates w.violations := by
  have hsheets : w.violations = w.sheets.flatMap fun s => if s.isRuleSheet then s.violations else [] := by
    rw [violations, ruleSheets]
    induction w.sheets with
    | nil => simp only [List.filter_nil, List.flatMap_nil]
    | cons s rest ih =>
      rw [List.flatMap_cons, ← ih]
      cases h : s.isRuleSheet with
      | true => rw [List.filter_cons_of_pos h, List.flatMap_cons, if_pos rfl]
      | false => rw [List.filter_cons_of_neg (by simp [h]), if_neg Bool.false_ne_true, List.nil_append]
  have hsheet : ∀ s ∈ w.sheets, Enumerates (fun cell v => s.isRuleSheet = true ∧ s.Violates cell v)
      (if s.isRuleSheet then s.violations else []) := by
    intro s _
    by_cases h : s.isRuleSheet
    · simpa [h] using s.enumerates_violations
    · exact ⟨[], .nil, by simp [h], by simp [h]⟩
  rw [hsheets]
  exact enumerates_flatMap_getElem? hsheet fun _ _ _ => Iff.rfl

lemma validate_eq_ok_iff {w : Workbook} : w.validate = .ok () ↔ w.violations = [] := by
  rw [validate]
  cases w.violations with
  | nil => simp
  | cons v rest => simp

lemma validate_eq_error_iff {w : Workbook} {e : ValidationError} :
    w.validate = .error e ↔ w.violations ≠ [] ∧ e = .cells w.violations := by
  rw [validate]
  cases w.violations with
  | nil => simp
  | cons v rest => simp [eq_comm]

lemma violates_unique {place : ℕ ×ₗ ℕ ×ₗ ℕ} {v v' : CellViolation} (h : w.Violates place v)
    (h' : w.Violates place v') : v = v' := by
  obtain ⟨s, hs, -, -, -, rule, hrule, hcolumn, rfl⟩ := h
  obtain ⟨s', hs', -, -, -, rule', hrule', hcolumn', rfl⟩ := h'
  obtain rfl := Option.some.inj (hs.symm.trans hs')
  have hone : ∀ rule ∈ columnRules, ∀ rule' ∈ columnRules, rule.column = rule'.column → rule = rule' := by decide
  rw [hone rule hrule rule' hrule' (hcolumn.trans hcolumn'.symm)]

lemma violations_eq_nil_iff : w.violations = [] ↔ ∀ s ∈ w.sheets, s.isRuleSheet = true → ∀ row, s.IsDataRow row →
    ∀ column, IsCode column (s.trimmed row column) := by
  rw [w.enumerates_violations.eq_nil_iff]
  constructor
  · intro hnone s hs hr row hrow column
    obtain ⟨i, hi⟩ := List.mem_iff_getElem?.mp hs
    by_contra hcode
    obtain ⟨rule, hrule, hcolumn⟩ := exists_rule_of_not_isCode hcode
    exact hnone (toLex (i, toLex (row, column))) _ ⟨s, hi, hr, hrow, hcode, rule, hrule, hcolumn, rfl⟩
  · rintro hall place v ⟨s, hi, hr, hrow, hcode, -⟩
    exact hcode (hall s (List.mem_of_getElem? hi) hr _ hrow _)

/-- A workbook is valid just if all data rows of its rule sheets have codes in the lookup columns; the report of
any other has each cell that has none, in order. The lookup columns have the patterns of their codes. -/
theorem validation_exact :
    (w.validate = .ok () ↔ ∀ s ∈ w.sheets, s.isRuleSheet = true → ∀ row, s.IsDataRow row →
      ∀ column, IsCode column (s.trimmed row column)) ∧
    (∀ e, w.validate = .error e ↔ ∃ violations, e = .cells violations ∧ violations ≠ [] ∧
      Enumerates w.Violates violations) ∧
    ∀ rule ∈ columnRules, ∃ p, ofText rule.form.pattern = .ok p ∧
      ∀ code, p.occursIn code = true ↔ IsCode rule.column code := by
  refine ⟨validate_eq_ok_iff.trans w.violations_eq_nil_iff, fun e => ?_, fun rule hrule => exists_pattern hrule⟩
  rw [validate_eq_error_iff]
  constructor
  · rintro ⟨hne, rfl⟩
    exact ⟨_, rfl, hne, w.enumerates_violations⟩
  · rintro ⟨violations, rfl, hne, hv⟩
    have hone : ∀ place v v', w.Violates place v → w.Violates place v' → v = v' := fun _ _ _ => w.violates_unique
    obtain rfl := hv.unique hone w.enumerates_violations
    exact ⟨hne, rfl⟩

end Workbook

end DiscountTables
