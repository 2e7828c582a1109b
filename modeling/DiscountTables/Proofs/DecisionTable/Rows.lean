import DiscountTables.Proofs.DecisionTable.Columns
import DiscountTables.Proofs.Evaluation
import DiscountTables.Proofs.Lists
import DiscountTables.Proofs.Pattern.Counts

namespace DiscountTables

open Text

namespace TableRow

def draft (r : TableRow) : RuleDraft :=
  r.table.sheet.rowDraft r.table.name (r.table.sheet.columns r.table.header) r.row

def texts (field : ResponseField) (r : TableRow) : List String :=
  (r.table.sheet.columns r.table.header).filterMap fun c =>
    if c.role = .action field ∧ r.text c.index ≠ "" then some (r.text c.index) else none

end TableRow

lemma predicate_holds {field : RequestField} {op : Template.Operator} {cell : String} {p : Predicate}
    (h : Sheet.predicate field op cell = .ok p) (request : Request) :
    p.holds request = true ↔ op.Accepts cell (request.get field) := by
  cases op with
  | equal =>
    cases h
    simp [Predicate.holds, Template.Operator.Accepts]
  | notEqual =>
    cases h
    simp [Predicate.holds, Template.Operator.Accepts]
  | fits =>
    obtain ⟨pattern, hp, rfl⟩ := map_eq_ok.mp h
    simp only [Predicate.holds, Template.Operator.Accepts, Pattern.occursIn_iff_spans]
    constructor
    · intro hs
      exact ⟨pattern, hp, hs⟩
    · rintro ⟨q, hq, hs⟩
      obtain rfl := Except.ok.inj (hp.symm.trans hq)
      exact hs

namespace Sheet

lemma mem_predicateReadings_iff {s : Sheet} {columns : List Column} {row : ℕ}
    {reading : Except Diagnostic Predicate} :
    reading ∈ s.predicateReadings columns row ↔ ∃ i field op, (⟨i, .condition field op⟩ : Column) ∈ columns ∧
      s.trimmed row i ≠ "" ∧ reading = (predicate field op (s.trimmed row i)).mapError
        fun e => s.defectAt row i (.badPattern field e) := by
  rw [predicateReadings_eq, List.mem_filterMap]
  constructor
  · rintro ⟨⟨i, _⟩, hc, hr⟩
    obtain ⟨field, op, rfl, hn, rfl⟩ := reading?_eq_some_iff.mp hr
    exact ⟨i, field, op, hc, hn, rfl⟩
  · rintro ⟨i, field, op, hc, hn, rfl⟩
    exact ⟨_, hc, reading?_eq_some_iff.mpr ⟨field, op, rfl, hn, rfl⟩⟩

lemma mem_predicates_iff {s : Sheet} {columns : List Column} {row : ℕ} {p : Predicate} :
    p ∈ (s.predicateReadings columns row).filterMap Except.toOption ↔
      ∃ i field op, (⟨i, .condition field op⟩ : Column) ∈ columns ∧ s.trimmed row i ≠ "" ∧
        predicate field op (s.trimmed row i) = .ok p := by
  simp only [List.mem_filterMap, mem_predicateReadings_iff, toOption_eq_some_iff]
  constructor
  · rintro ⟨_, ⟨i, field, op, hc, hn, rfl⟩, hp⟩
    exact ⟨i, field, op, hc, hn, mapError_eq_ok.mp hp⟩
  · rintro ⟨i, field, op, hc, hn, hp⟩
    exact ⟨_, ⟨i, field, op, hc, hn, rfl⟩, mapError_eq_ok.mpr hp⟩

lemma exists_predicate {s : Sheet} {columns : List Column} {row : ℕ} (h : s.rowDefects columns row = [])
    {i : ℕ} {field : RequestField} {op : Template.Operator}
    (hc : (⟨i, .condition field op⟩ : Column) ∈ columns) (hn : s.trimmed row i ≠ "") :
    ∃ p, predicate field op (s.trimmed row i) = .ok p := by
  cases hp : predicate field op (s.trimmed row i) with
  | ok p => exact ⟨p, rfl⟩
  | error e =>
    have hd : s.defectAt row i (.badPattern field e) ∈ s.rowDefects columns row := by
      refine List.mem_filterMap.mpr ⟨_, mem_predicateReadings_iff.mpr ⟨i, field, op, hc, hn, rfl⟩, ?_⟩
      rw [hp]
      rfl
    rw [h] at hd
    cases hd

end Sheet

namespace TableRow

variable {r : TableRow}

lemma applies_draft_iff (h : r.table.sheet.rowDefects (r.table.sheet.columns r.table.header) r.row = [])
    (request : Request) : r.draft.applies request = true ↔ r.Applies request := by
  simp only [RuleDraft.applies, draft, Sheet.rowDraft, List.all_eq_true, Sheet.mem_predicates_iff]
  constructor
  · intro hall column field op hc hn
    rw [RuleTable.condition_iff] at hc
    obtain ⟨p, hp⟩ := Sheet.exists_predicate h hc hn
    exact (predicate_holds hp request).mp (hall p ⟨column, field, op, hc, hn, hp⟩)
  · rintro hrow p ⟨column, field, op, hc, hn, hp⟩
    exact (predicate_holds hp request).mpr (hrow column field op ((r.table.condition_iff _ _ _).mpr hc) hn)

lemma written_draft (field : ResponseField) :
    r.draft.effects.filterMap (Effect.written? field) = r.texts field := by
  simp only [draft, Sheet.rowDraft, Sheet.effects, texts, text, List.filterMap_filterMap]
  congr 1
  funext c
  obtain ⟨i, role⟩ := c
  cases role with
  | condition f op => simp
  | action f =>
    by_cases hn : r.table.sheet.trimmed r.row i = ""
    · simp [hn]
    · simp [hn, Effect.written?]

lemma texts_eq_nil_iff (field : ResponseField) :
    r.texts field = [] ↔ ∀ c, r.table.Action c field → r.text c = "" := by
  simp only [texts, List.filterMap_eq_nil_iff, RuleTable.action_iff]
  constructor
  · intro h i hc
    by_contra hn
    have hi := h ⟨i, .action field⟩ hc
    simp [hn] at hi
  · rintro h ⟨i, role⟩ hc
    by_cases hr : role = .action field
    · subst role
      simp [h i hc]
    · simp [hr]

lemma getLast?_texts_iff (field : ResponseField) (text : String) :
    (r.texts field).getLast? = some text ↔ text ≠ "" ∧ ∃ column, r.table.Action column field ∧
      r.text column = text ∧ ∀ c, column < c → r.table.Action c field → r.text c = "" := by
  rw [texts, getLast?_filterMap_eq_some_iff (r.table.sheet.columns_sorted r.table.header)]
  simp only [RuleTable.action_iff]
  constructor
  · rintro ⟨⟨i, role⟩, hmem, hx, hy⟩
    split at hx
    · rename_i hc
      obtain ⟨hr, hn⟩ := hc
      obtain rfl := Option.some.inj hx
      obtain rfl : role = .action field := hr
      refine ⟨hn, i, hmem, rfl, ?_⟩
      intro c hlt hc
      by_contra hcn
      have hnone := hy ⟨c, .action field⟩ hc hlt
      simp [hcn] at hnone
    · cases hx
  · rintro ⟨hn, i, hmem, rfl, hy⟩
    refine ⟨⟨i, .action field⟩, hmem, if_pos ⟨rfl, hn⟩, ?_⟩
    rintro ⟨c, role⟩ hc hlt
    by_cases hr : role = .action field
    · subst role
      simp [hy c hlt hc]
    · simp [hr]

end TableRow

lemma getLast?_flatMap_texts_iff (rows : List TableRow) (field : ResponseField) (text : String) :
    (rows.flatMap (TableRow.texts field)).getLast? = some text ↔ LastText rows field text := by
  simp only [getLast?_flatMap_eq_some_iff, TableRow.getLast?_texts_iff, TableRow.texts_eq_nil_iff, LastText]
  constructor
  · rintro ⟨above, r, below, hrows, ⟨hn, column, ha, ht, hlast⟩, hb⟩
    exact ⟨hn, above, r, below, column, hrows, ha, ht, hlast, hb⟩
  · rintro ⟨hn, above, r, below, column, hrows, ha, ht, hlast, hb⟩
    exact ⟨above, r, below, hrows, ⟨hn, column, ha, ht, hlast⟩, hb⟩

end DiscountTables
