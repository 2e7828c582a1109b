import DiscountTables.Proofs.DecisionTable.Answers
import DiscountTables.Proofs.Enumeration
import DiscountTables.Proofs.Sheet

namespace DiscountTables

namespace TableRow

structure Becomes (r : TableRow) (rule : Rule) : Prop where
  name_eq : rule.name = r.name
  predicates : Enumerates (fun column p => ∃ field op, r.table.Condition column field op ∧ r.text column ≠ "" ∧
    Sheet.predicate field op (r.text column) = .ok p) rule.predicates
  effects : Enumerates (fun column (e : Effect) => r.table.Action column e.field ∧ r.text column ≠ "" ∧
    e.value = r.text column) rule.effects

def StandsAt (tables : List RuleTable) (place : ℕ ×ₗ ℕ) (r : TableRow) : Prop :=
  tables[(ofLex place).1]? = some r.table ∧ r.row = (ofLex place).2 ∧ r.table.sheet.IsDataRow r.row

end TableRow

/-- The rules of a base, in whatever way one asks for them, are those of the data rows of rule tables, in order. -/
structure RuleBase.Covers (base : RuleBase) (tables : List RuleTable) (rows : List TableRow) : Prop where
  enumerates : Enumerates (TableRow.StandsAt tables) rows
  becomes : List.Forall₂ TableRow.Becomes rows base.rules
  ordinals : base.rules.map Rule.ordinal = List.range base.size
  ruleSets : ∀ rule ∈ base.rules, rule.ruleSet = base.ruleSet
  names : ∀ x ∈ rows.zip base.rules, ∀ y ∈ rows.zip base.rules,
    x.2.name = y.2.name ↔ x.1.row = y.1.row ∧ x.1.table.name = y.1.table.name
  size : base.size = base.rules.length
  executionOrder : base.executionOrder = base.rules.map Rule.name
  own : base.rulesIn base.ruleSet = base.rules
  other : ∀ ruleSet, ruleSet ≠ base.ruleSet → base.rulesIn ruleSet = []

namespace TableRow

lemma takeWhile_isDigit (n : ℕ) (rest : List Char) :
    ((Nat.toDigits 10 n).reverse ++ '_' :: rest).takeWhile Char.isDigit = (Nat.toDigits 10 n).reverse := by
  have hdigits : ∀ c ∈ (Nat.toDigits 10 n).reverse, c.isDigit = true := fun c hc =>
    Nat.isDigit_of_mem_toDigits (by decide) (by decide) (List.mem_reverse.mp hc)
  rw [List.takeWhile_append_of_pos hdigits, List.takeWhile_cons_of_neg (by decide), List.append_nil]

lemma numbered_inj {a b : String} {m n : ℕ} (h : a ++ "_" ++ toString m = b ++ "_" ++ toString n) : a = b ∧ m = n := by
  have hreverse := congrArg (fun name => name.toList.reverse) h
  simp only [String.toList_append, List.reverse_append, Nat.toString_eq_repr, Nat.toList_repr] at hreverse
  have hdigits := congrArg (List.takeWhile Char.isDigit) hreverse
  have hnumber : m = n := by
    have hlist := List.reverse_injective ((takeWhile_isDigit m _).symm.trans (hdigits.trans (takeWhile_isDigit n _)))
    calc
      m = Nat.ofDigitChars 10 (Nat.toDigits 10 m) 0 := Nat.ofDigitChars_ten_toDigits.symm
      _ = Nat.ofDigitChars 10 (Nat.toDigits 10 n) 0 := by rw [hlist]
      _ = n := Nat.ofDigitChars_ten_toDigits
  subst hnumber
  refine ⟨String.toList_injective (List.reverse_injective ?_), rfl⟩
  exact List.append_cancel_left (List.append_cancel_left hreverse)

lemma name_eq_name_iff {r q : TableRow} : r.name = q.name ↔ r.row = q.row ∧ r.table.name = q.table.name := by
  constructor
  · intro h
    obtain ⟨htable, hrow⟩ := numbered_inj h
    exact ⟨Nat.succ.inj hrow, htable⟩
  · rintro ⟨hrow, htable⟩
    rw [name, name, hrow, htable]

end TableRow

namespace Sheet

variable {s : Sheet}

lemma ncard_isDataRow (s : Sheet) : {row | s.IsDataRow row}.ncard = s.dataRows.length := by
  have hset : {row | s.IsDataRow row} = s.dataRows.toFinset := by
    ext row
    simp [mem_dataRows_iff_isDataRow]
  have hnodup : s.dataRows.Nodup := s.dataRows_sorted.imp ne_of_lt
  rw [hset, Set.ncard_coe_finset, List.toFinset_card_of_nodup hnodup]

end Sheet

lemma enumerates_dataRows (tables : List RuleTable) :
    Enumerates (TableRow.StandsAt tables) (tables.flatMap RuleTable.dataRows) := by
  have htable : ∀ t ∈ tables, Enumerates (fun row r => t.sheet.IsDataRow row ∧ r = ⟨t, row⟩) t.dataRows := by
    intro t _
    rw [RuleTable.dataRows, ← List.filterMap_eq_map]
    refine enumerates_filterMap id t.sheet.dataRows_sorted fun row r => ?_
    simp only [Sheet.mem_dataRows_iff_isDataRow, Function.comp_apply, Option.some.injEq, id_eq]
    constructor
    · rintro ⟨hrow, rfl⟩
      exact ⟨row, hrow, rfl, rfl⟩
    · rintro ⟨_, hrow, rfl, rfl⟩
      exact ⟨hrow, rfl⟩
  refine enumerates_flatMap_getElem? htable fun i row r => ?_
  constructor
  · rintro ⟨ht, rfl, hrow⟩
    exact ⟨r.table, ht, hrow, rfl⟩
  · rintro ⟨t, ht, hrow, rfl⟩
    exact ⟨ht, rfl, hrow⟩

lemma length_dataRows {tables : List RuleTable} {w : Workbook} (h : tables.map RuleTable.sheet = w.ruleSheets) :
    (tables.flatMap RuleTable.dataRows).length = (w.ruleSheets.map fun s => {row | s.IsDataRow row}.ncard).sum := by
  rw [List.length_flatMap, ← h, List.map_map]
  congr 1
  refine List.map_congr_left fun t _ => ?_
  rw [Function.comp_apply, Sheet.ncard_isDataRow, RuleTable.dataRows, List.length_map]

namespace TableRow

variable (r : TableRow)

lemma enumerates_predicates : Enumerates (fun column p => ∃ field op, r.table.Condition column field op ∧
    r.text column ≠ "" ∧ Sheet.predicate field op (r.text column) = .ok p) r.draft.predicates := by
  rw [draft, Sheet.rowDraft, Sheet.predicateReadings_eq, List.filterMap_filterMap]
  refine enumerates_filterMap Column.index (r.table.sheet.columns_sorted r.table.header) fun column p => ?_
  simp only [RuleTable.condition_iff, Option.bind_eq_some_iff, Sheet.reading?_eq_some_iff, toOption_eq_some_iff]
  constructor
  · rintro ⟨field, op, hc, hn, hp⟩
    exact ⟨_, hc, rfl, _, ⟨field, op, rfl, hn, rfl⟩, mapError_eq_ok.mpr hp⟩
  · rintro ⟨⟨_, _⟩, hc, rfl, _, ⟨field, op, rfl, hn, rfl⟩, hp⟩
    exact ⟨field, op, hc, hn, mapError_eq_ok.mp hp⟩

lemma enumerates_effects : Enumerates (fun column (e : Effect) => r.table.Action column e.field ∧
    r.text column ≠ "" ∧ e.value = r.text column) r.draft.effects := by
  refine enumerates_filterMap Column.index (r.table.sheet.columns_sorted r.table.header) fun column e => ?_
  rw [RuleTable.action_iff]
  constructor
  · rintro ⟨hc, hn, hv⟩
    obtain ⟨field, _⟩ := e
    subst hv
    exact ⟨_, hc, rfl, if_neg hn⟩
  · rintro ⟨⟨i, role⟩, hc, rfl, he⟩
    cases role with
    | condition field op => cases he
    | action field =>
      obtain ⟨hn, he⟩ := Option.ite_none_left_eq_some.mp he
      cases he
      exact ⟨hc, hn, rfl⟩

lemma becomes_draft (ruleSet : String) (ordinal : ℕ) :
    r.Becomes ⟨r.draft.name, ruleSet, ordinal, r.draft.predicates, r.draft.effects⟩ :=
  ⟨rfl, r.enumerates_predicates, r.enumerates_effects⟩

end TableRow

namespace RuleBase

variable (ruleSet tag : String)

lemma forall₂_becomes (rows : List TableRow) :
    List.Forall₂ TableRow.Becomes rows (ofDrafts ruleSet tag (rows.map TableRow.draft)).rules := by
  refine List.forall₂_iff_get.mpr ⟨by simp [ofDrafts_eq], fun i hi hi' => ?_⟩
  simp only [ofDrafts_eq, List.get_eq_getElem, List.getElem_mapIdx, List.getElem_map]
  exact (rows[i]).becomes_draft ruleSet i

lemma covers_ofDrafts (tables : List RuleTable) :
    (ofDrafts ruleSet tag ((tables.flatMap RuleTable.dataRows).map TableRow.draft)).Covers tables
      (tables.flatMap RuleTable.dataRows) := by
  have hbecomes := forall₂_becomes ruleSet tag (tables.flatMap RuleTable.dataRows)
  rw [ofDrafts_eq] at hbecomes ⊢
  constructor
  · exact enumerates_dataRows tables
  · exact hbecomes
  · apply List.ext_getElem
    · simp [size]
    · intro i hi hi'
      simp
  · intro rule hrule
    obtain ⟨i, hi, rfl⟩ := List.mem_mapIdx.mp hrule
    rfl
  · rintro ⟨r, rule⟩ hr ⟨q, rule'⟩ hq
    rw [(List.forall₂_zip hbecomes hr).name_eq, (List.forall₂_zip hbecomes hq).name_eq, TableRow.name_eq_name_iff]
  · rfl
  · rfl
  · exact if_pos rfl
  · intro ruleSet hother
    exact if_neg hother

end RuleBase

/-- A compilation without errors makes one rule of each data row and of nothing else. -/
theorem Workbook.ruleBase_covers {w : Workbook} {ruleSet tag : String} {base : RuleBase}
    (h : w.compile.ruleBase ruleSet tag = .ok base) :
    base.ruleSet = ruleSet ∧ base.versionTag = tag ∧
      base.size = (w.ruleSheets.map fun s => {row | s.IsDataRow row}.ncard).sum ∧
      ∃ tables rows, tables.map RuleTable.sheet = w.ruleSheets ∧ (∀ t ∈ tables, t.WellFormed) ∧
        base.Covers tables rows := by
  obtain ⟨herrors, rfl⟩ := Compiled.ruleBase_eq_ok_iff.mp h
  obtain ⟨tables, hmap, hall⟩ := w.exists_tables herrors
  rw [compile_rules_eq_drafts hmap hall]
  have hcovers := RuleBase.covers_ofDrafts ruleSet tag tables
  refine ⟨RuleBase.ruleSet_ofDrafts _ _ _, RuleBase.versionTag_ofDrafts _ _ _, ?_, tables, _, hmap,
    fun t ht => (hall t ht).wellFormed, hcovers⟩
  rw [hcovers.size, ← hcovers.becomes.length_eq, length_dataRows hmap]

/-- Two tables of one name: the title of the first has a blank, and the second has no title but its sheet has the
name. Their rows have one name where they have one number. -/
def sameNamedTables : Workbook := ⟨[⟨"Rates", [
  ["RuleSet"], ["RuleTable T 1"], ["", "CONDITION", "ACTION"], [], ["", "country", "discountPercentage"],
  [], [], [], [], ["", "AU", "0.5"], ["", "NZ", "0.6"]]⟩,
  ⟨"T_1", [["RuleSet"], ["RuleTable"], ["", "CONDITION", "ACTION"], [], ["", "state", "conversionRateUSD"],
  [], [], [], [], [], ["", "", "1.2"], ["", "NSW", "1.3"]]⟩]⟩

theorem ruleBase_covers_sameNamedTables : ∃ base, sameNamedTables.compile.ruleBase "loyalty" "v1" = .ok base ∧
    base.executionOrder = ["T_1_10", "T_1_11", "T_1_11", "T_1_12"] ∧
    base.ruleSet = "loyalty" ∧ base.versionTag = "v1" ∧
      base.size = (sameNamedTables.ruleSheets.map fun s => {row | s.IsDataRow row}.ncard).sum ∧
      ∃ tables rows, tables.map RuleTable.sheet = sameNamedTables.ruleSheets ∧ (∀ t ∈ tables, t.WellFormed) ∧
        base.Covers tables rows := by
  have hnames : ((sameNamedTables.compile.ruleBase "loyalty" "v1").toOption.map RuleBase.executionOrder) =
      some ["T_1_10", "T_1_11", "T_1_11", "T_1_12"] := by decide +kernel
  obtain ⟨base, hbase, horder⟩ := Option.map_eq_some_iff.mp hnames
  have hbase := toOption_eq_some_iff.mp hbase
  exact ⟨base, hbase, horder, Workbook.ruleBase_covers hbase⟩

end DiscountTables
