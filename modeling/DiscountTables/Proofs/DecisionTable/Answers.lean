import DiscountTables.Proofs.DecisionTable.Rows
import DiscountTables.Proofs.Loading
import DiscountTables.Registry

namespace DiscountTables

open Text

open scoped Classical

namespace Sheet

lemma length_of_eqIgnoringCase {a b : String} (h : eqIgnoringCase a b = true) :
    a.toList.length = b.toList.length := by
  have hlen := congrArg List.length (beq_iff_eq.mp h)
  simpa [foldCase] using hlen

lemma length_ruleTableMarker : ruleTableMarker.length = 9 := by decide

lemma tableName?_eq_some_iff (cell title : String) :
    tableName? cell = some title ↔ ∃ marker rest, eqIgnoringCase marker ruleTableMarker = true ∧
      trim cell = marker ++ rest ∧ title = trim rest := by
  simp only [tableName?, length_ruleTableMarker]
  constructor
  · intro h
    split at h
    · rename_i hm
      refine ⟨_, String.ofList ((trimChars cell.toList).drop 9), hm, ?_, ?_⟩
      · rw [← String.ofList_append, List.take_append_drop]
        rfl
      · obtain rfl := Option.some.inj h
        rw [trim, String.toList_ofList]
    · cases h
  · rintro ⟨marker, rest, hm, hcell, rfl⟩
    have hlen : marker.toList.length = 9 := (length_of_eqIgnoringCase hm).trans length_ruleTableMarker
    have hs : trimChars cell.toList = marker.toList ++ rest.toList := by
      have hl := congrArg String.toList hcell
      rwa [trim, String.toList_ofList, String.toList_append] at hl
    have htake : (trimChars cell.toList).take 9 = marker.toList := by rw [hs, ← hlen, List.take_left]
    have hdrop : (trimChars cell.toList).drop 9 = rest.toList := by rw [hs, ← hlen, List.drop_left]
    rw [htake, hdrop, String.ofList_toList, if_pos hm]
    rfl

lemma headerRow?_eq_some_iff (s : Sheet) (header : ℕ) :
    s.headerRow? = some header ↔ (tableName? (s.cell header 0)).isSome = true ∧
      (1 ≤ header ∧ header < 9) ∧ ∀ row, 1 ≤ row → row < header → tableName? (s.cell row 0) = none := by
  simp only [headerRow?, firstDataRow, List.find?_range'_eq_some, List.mem_range'_1]
  simp

lemma tableName_eq {s : Sheet} {header : ℕ} {title : String} (h : tableName? (s.cell header 0) = some title) :
    s.tableName header = withoutBlanks (if title = "" then s.name else title) := by
  simp only [tableName, h]
  split
  · rename_i hn
    cases hn
  · rename_i hn
    rw [if_pos (Option.some.inj hn)]
  · rename_i name hne hn
    obtain rfl := Option.some.inj hn
    rw [if_neg hne]

end Sheet

namespace RuleTable

variable {t : RuleTable}

lemma titledAt_iff (row : ℕ) (title : String) :
    t.TitledAt row title ↔ Sheet.tableName? (t.sheet.cell row 0) = some title :=
  (Sheet.tableName?_eq_some_iff _ _).symm

structure Compiles (t : RuleTable) : Prop where
  sound : t.sheet.Sound t.header
  name : t.name = t.sheet.tableName t.header

lemma Compiles.wellFormed (h : t.Compiles) : t.WellFormed := by
  obtain ⟨hsome, ⟨hpos, hlt⟩, hfirst⟩ := (t.sheet.headerRow?_eq_some_iff t.header).mp h.sound.marked
  obtain ⟨title, ht⟩ := Option.isSome_iff_exists.mp hsome
  refine ⟨hpos, hlt, ?_, ⟨title, (titledAt_iff _ _).mpr ht, h.name.trans (Sheet.tableName_eq ht)⟩, ?_, ?_⟩
  · intro row h1 h2 title ht
    rw [titledAt_iff, hfirst row h1 h2] at ht
    cases ht
  · intro column hk
    obtain ⟨role, hmem⟩ := Sheet.exists_mem_columns h.sound.readable hk.1 (kind_ne_empty hk (by decide))
    cases role with
    | condition field op => exact ⟨field, op, (t.condition_iff _ _ _).mpr hmem⟩
    | action field => exact absurd ((t.action_iff _ _).mpr hmem).1.2 (Column.not_action_of_condition hk.2)
  · intro column hk
    obtain ⟨role, hmem⟩ := Sheet.exists_mem_columns h.sound.readable hk.1 (kind_ne_empty hk (by decide))
    cases role with
    | action field => exact ⟨field, (t.action_iff _ _).mpr hmem⟩
    | condition field op =>
      exact absurd hk.2 (Column.not_action_of_condition ((t.condition_iff _ _ _).mpr hmem).1.2)

lemma Compiles.rules (h : t.Compiles) : t.sheet.compile.rules = t.dataRows.map TableRow.draft := by
  rw [h.sound.rules, dataRows, List.map_map, ← h.name]
  rfl

end RuleTable

lemma Sheet.Sound.compiles {s : Sheet} {header : ℕ} (h : s.Sound header) :
    (⟨s, header, s.tableName header⟩ : RuleTable).Compiles := by
  constructor
  · exact h
  · dsimp only

lemma Workbook.exists_tables {w : Workbook} (h : w.compile.errors = []) :
    ∃ tables : List RuleTable, tables.map RuleTable.sheet = w.ruleSheets ∧ ∀ t ∈ tables, t.Compiles := by
  have hs : ∀ s ∈ w.ruleSheets, ∃ header, s.Sound header := fun s hs => w.exists_sound h hs
  generalize w.ruleSheets = sheets at hs
  induction sheets with
  | nil => exact ⟨[], rfl, by simp⟩
  | cons s rest ih =>
    obtain ⟨⟨header, hsound⟩, hrest⟩ := List.forall_mem_cons.mp hs
    obtain ⟨tables, hmap, hall⟩ := ih hrest
    refine ⟨⟨s, header, s.tableName header⟩ :: tables, by rw [List.map_cons, hmap], ?_⟩
    exact List.forall_mem_cons.mpr ⟨hsound.compiles, hall⟩

lemma compile_rules_eq_drafts {w : Workbook} {tables : List RuleTable}
    (hmap : tables.map RuleTable.sheet = w.ruleSheets) (hall : ∀ t ∈ tables, t.Compiles) :
    w.compile.rules = (tables.flatMap RuleTable.dataRows).map TableRow.draft := by
  rw [Workbook.compile_rules, ← hmap, List.flatMap_map, List.map_flatMap]
  exact List.flatMap_congr fun t ht => (hall t ht).rules

lemma filter_drafts {tables : List RuleTable} (hall : ∀ t ∈ tables, t.Compiles) (request : Request) :
    ((tables.flatMap RuleTable.dataRows).map TableRow.draft).filter (fun d => d.applies request) =
      ((tables.flatMap RuleTable.dataRows).filter fun r => r.Applies request).map TableRow.draft := by
  rw [List.filter_map]
  refine congrArg _ (List.filter_congr ?_)
  intro r hr
  obtain ⟨t, ht, hr⟩ := List.mem_flatMap.mp hr
  obtain ⟨row, hrow, rfl⟩ := List.mem_map.mp hr
  have hv := (hall t ht).sound.valid row hrow
  have happ := TableRow.applies_draft_iff (r := ⟨t, row⟩) hv request
  rw [Function.comp_apply, Bool.eq_iff_iff, decide_eq_true_iff]
  exact happ

/-- A rule base that was loaded from a workbook and published gives the answers of the workbook. -/
theorem answers_of_load {w : Workbook} {tag : String} {base : RuleBase} (h : w.load tag = .ok base)
    (registry : Registry) (request : Request) :
    w.Answers request ((registry.publish base).evaluate request) := by
  obtain ⟨_, ruleSet, _, herrors, rfl⟩ := Workbook.load_eq_ok_iff.mp h
  obtain ⟨tables, hmap, hall⟩ := w.exists_tables herrors
  refine ⟨tables, hmap, fun t ht => (hall t ht).wellFormed, ?_⟩
  intro rows
  have hfired : w.compile.rules.filter (fun d => d.applies request) = rows.map TableRow.draft := by
    rw [compile_rules_eq_drafts hmap hall, filter_drafts hall]
  have hwritten : ∀ field, ((rows.map TableRow.draft).flatMap RuleDraft.effects).filterMap
      (Effect.written? field) = rows.flatMap (TableRow.texts field) := by
    intro field
    rw [List.flatMap_map, List.filterMap_flatMap]
    exact List.flatMap_congr fun r _ => TableRow.written_draft field
  have heval := evaluate_ofDrafts ruleSet tag w.compile.rules request
  simp only [hfired, hwritten] at heval
  have hpublished : (registry.publish (.ofDrafts ruleSet tag w.compile.rules)).evaluate request =
      (RuleBase.ofDrafts ruleSet tag w.compile.rules).evaluate request := rfl
  rw [hpublished]
  cases hr : (RuleBase.ofDrafts ruleSet tag w.compile.rules).evaluate request with
  | error e =>
    rw [hr] at heval
    exact ⟨heval.1, List.map_eq_nil_iff.mp heval.2⟩
  | ok e =>
    rw [hr] at heval
    obtain ⟨hne, hnames, _, hresponse⟩ := heval
    refine ⟨fun hnil => hne (by rw [hnil]; rfl), ?_, ?_⟩
    · rw [hnames, List.map_map]
      rfl
    · intro field
      rw [hresponse field]
      refine ⟨getLast?_flatMap_texts_iff rows field, ?_⟩
      simp only [List.getLast?_eq_none_iff, List.flatMap_eq_nil_iff, TableRow.texts_eq_nil_iff]

def goldTierWorkbook : Workbook := ⟨[⟨"Discounts", [
  ["RuleSet", "loyalty"],
  [],
  ["RuleTable Gold Tier"],
  ["", "CONDITION", "", "", "", "", "ACTION", "Action", "condition"],
  [],
  ["", "request.country", "", "", "", "", "discountPercentage = $param", "setConversionRateUSD($param)",
    "loyaltyPeriod matches $param"],
  [],
  [],
  [],
  ["", "AU", "NSW", "SYD", "GLD", "1", "0.5", "0.7"],
  [],
  ["", "AU", " VIC ", "MEL", "GLD", "12", " 0.6 ", "", "1|2"]]⟩]⟩

theorem answers_goldTierWorkbook : ∃ base, goldTierWorkbook.load "v1" = .ok base ∧
    goldTierWorkbook.Answers ⟨"AU", "NSW", "SYD", "GLD", "2"⟩
      ((({} : Registry).publish base).evaluate ⟨"AU", "NSW", "SYD", "GLD", "2"⟩) := by
  have hsome : (goldTierWorkbook.load "v1").toOption.isSome = true := by decide +kernel
  cases h : goldTierWorkbook.load "v1" with
  | error e =>
    rw [h] at hsome
    cases hsome
  | ok base => exact ⟨base, rfl, answers_of_load h {} _⟩

end DiscountTables
