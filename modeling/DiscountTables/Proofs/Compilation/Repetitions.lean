import DiscountTables.Proofs.Compilation.PatternCells
import DiscountTables.Proofs.Conjunction
import DiscountTables.Proofs.Text.Blank

/-!
Which rows are reported for repeating the conditions of a row above them. Rows are compared by the texts of their
conditions.
-/

namespace DiscountTables

open Text

def Diagnostic.isRepetition (d : Diagnostic) : Bool :=
  match d.remark with
  | .oddity (.repeatsRow _) => true
  | _ => false

namespace Sheet

def ruleRows (s : Sheet) (header : ℕ) : List ℕ :=
  s.dataRows.filter fun row => (s.rowDefects (s.columns header) row).isEmpty

def conditions (s : Sheet) (header row : ℕ) : List Predicate :=
  (s.rowDraft (s.tableName header) (s.columns header) row).predicates

structure Repeats (s : Sheet) (header : ℕ) (Alike : ℕ → ℕ → Prop) (row earlier : ℕ) : Prop where
  row_mem : row ∈ s.ruleRows header
  earlier_mem : earlier ∈ s.ruleRows header
  above : earlier < row
  alike : Alike earlier row
  latest : ∀ r ∈ s.ruleRows header, earlier < r → r < row → ¬ Alike r row

/-- Every row that is like one above it is reported once, with the latest such row, and no other row is. -/
structure ReportsRepetitions (s : Sheet) (header : ℕ) (Alike : ℕ → ℕ → Prop) : Prop where
  reported : ∀ row earlier, s.oddityAt row (.repeatsRow earlier) ∈ s.compile.diagnostics ↔
    s.Repeats header Alike row earlier
  listed : Enumerates (fun row d => ∃ earlier, s.Repeats header Alike row earlier ∧
    d = s.oddityAt row (.repeatsRow earlier)) (s.compile.diagnostics.filter Diagnostic.isRepetition)

/-- The condition cells of the rule rows do not read like several conditions. -/
def Unjoined (s : Sheet) (header : ℕ) : Prop :=
  ∀ row ∈ s.ruleRows header, ∀ column field op, (s.table header).Condition column field op →
    ¬ Predicate.HoldsJoint (s.trimmed row column).toList

variable {s : Sheet} {header row : ℕ}

def repetition? (s : Sheet) (header row : ℕ) : Option Diagnostic :=
  ((s.ruleRows header).filter fun r => r < row ∧
    s.conditionsText (s.columns header) r = s.conditionsText (s.columns header) row).getLast?.map fun earlier =>
      s.oddityAt row (.repeatsRow earlier)

def SameText (s : Sheet) (header : ℕ) (row₁ row₂ : ℕ) : Prop :=
  Predicate.conjunctionText (s.conditions header row₁) = Predicate.conjunctionText (s.conditions header row₂)

lemma ruleRows_sorted (s : Sheet) (header : ℕ) : (s.ruleRows header).Pairwise (· < ·) := s.dataRows_sorted.filter _

lemma repetition?_eq_some_iff (hrow : row ∈ s.ruleRows header) (d : Diagnostic) :
    s.repetition? header row = some d ↔
      ∃ earlier, s.Repeats header (s.SameText header) row earlier ∧ d = s.oddityAt row (.repeatsRow earlier) := by
  rw [repetition?, Option.map_eq_some_iff]
  refine exists_congr fun earlier => and_congr ?_ eq_comm
  rw [← List.filterMap_eq_filter, getLast?_filterMap_eq_some_iff (s.ruleRows_sorted header)]
  simp only [Option.guard_eq_some_iff, Option.guard_eq_none_iff, decide_eq_true_eq, decide_eq_false_iff_not, not_and]
  constructor
  · rintro ⟨_, hmem, ⟨rfl, habove, halike⟩, hlatest⟩
    exact ⟨hrow, hmem, habove, halike, hlatest⟩
  · intro h
    exact ⟨earlier, h.earlier_mem, ⟨rfl, h.above, h.alike⟩, h.latest⟩

lemma repetition?_of_append {done rest : List ℕ} (h : s.ruleRows header = done ++ row :: rest) :
    s.repetition? header row = ((done.filter fun r =>
      s.conditionsText (s.columns header) r = s.conditionsText (s.columns header) row).getLast?.map fun earlier =>
        s.oddityAt row (.repeatsRow earlier)) := by
  have hsorted := s.ruleRows_sorted header
  rw [h, List.pairwise_append] at hsorted
  obtain ⟨-, hrest, hdone⟩ := hsorted
  have habove : (row :: rest).filter (fun r => r < row ∧
      s.conditionsText (s.columns header) r = s.conditionsText (s.columns header) row) = [] := by
    refine List.filter_eq_nil_iff.mpr fun r hr => ?_
    have hle : row ≤ r := (List.mem_cons.mp hr).elim Eq.ge fun hr => (List.rel_of_pairwise_cons hrest hr).le
    simp [Nat.not_lt.mpr hle]
  rw [repetition?, h, List.filter_append, habove, List.append_nil]
  congr 2
  refine List.filter_congr fun r hr => ?_
  simp [hdone r hr row List.mem_cons_self]

lemma filter_rowDefects (s : Sheet) (columns : List Column) (row : ℕ) :
    (s.rowDefects columns row).filter Diagnostic.isRepetition = [] := by
  refine List.filter_eq_nil_iff.mpr fun d hd => ?_
  have herror := isError_of_mem_rowDefects hd
  obtain ⟨_, _, _, defect | oddity⟩ := d
  · simp [Diagnostic.isRepetition]
  · cases herror

lemma filter_rowOddities (s : Sheet) (columns : List Column) (seen : List (String × ℕ)) (row : ℕ) :
    (s.rowOddities columns seen row).filter Diagnostic.isRepetition =
      ((seen.lookup (s.conditionsText columns row)).map fun earlier =>
        s.oddityAt row (.repeatsRow earlier)).toList := by
  rw [rowOddities, List.filter_append]
  cases (s.effects columns row).isEmpty <;> cases seen.lookup (s.conditionsText columns row) <;> rfl

lemma filter_compileRows (table : String) {seen : List (String × ℕ)} {done rows : List ℕ}
    (hseen : ∀ t, seen.lookup t = (done.filter fun r => s.conditionsText (s.columns header) r = t).getLast?)
    (hrows : s.ruleRows header = done ++ rows.filter fun row => (s.rowDefects (s.columns header) row).isEmpty) :
    (s.compileRows table (s.columns header) {} seen rows).diagnostics.filter Diagnostic.isRepetition =
      (rows.filter fun row => (s.rowDefects (s.columns header) row).isEmpty).filterMap (s.repetition? header) := by
  -- `seen` holds the rule rows above, the latest first
  induction rows generalizing seen done with
  | nil => rfl
  | cons row rest ih =>
    by_cases h : s.rowDefects (s.columns header) row = []
    · rw [List.filter_cons_of_pos (by simp [h])] at hrows ⊢
      have hseen' : ∀ t, ((s.conditionsText (s.columns header) row, row) :: seen).lookup t =
          ((done ++ [row]).filter fun r => s.conditionsText (s.columns header) r = t).getLast? := by
        intro t
        rw [List.lookup_cons, List.filter_append, hseen]
        by_cases ht : s.conditionsText (s.columns header) row = t
        · simp [ht]
        · simp [ht, beq_eq_false_iff_ne.mpr (Ne.symm ht)]
      rw [compileRows_cons_sound s table _ seen rest h, Compiled.append, List.filter_append, filter_rowOddities, hseen,
        ← repetition?_of_append hrows, ih hseen' (by simpa using hrows), List.filterMap_cons]
      cases s.repetition? header row <;> rfl
    · rw [List.filter_cons_of_neg (by simp [h])] at hrows ⊢
      rw [compileRows_cons_broken s table _ seen rest h, Compiled.append, List.filter_append, filter_rowDefects]
      exact ih hseen hrows

lemma filter_compile (hs : s.Readable header) :
    s.compile.diagnostics.filter Diagnostic.isRepetition = (s.ruleRows header).filterMap (s.repetition? header) := by
  obtain ⟨hheader, hroom, hcolumns⟩ := readable_iff.mp hs
  have hrows : (s.compileRows (s.tableName header) (s.columns header) {} [] s.dataRows).diagnostics.filter
      Diagnostic.isRepetition = (s.ruleRows header).filterMap (s.repetition? header) :=
    filter_compileRows _ (fun _ => rfl) (List.nil_append _).symm
  rw [← hrows]
  have hroom' : header + templatesOffset < firstDataRow := by
    simp only [firstDataRow, templatesOffset]
    omega
  have hodd (p : Prop) [Decidable p] : (if p then [s.noRowsRemark] else []).filter Diagnostic.isRepetition = [] := by
    split <;> rfl
  rw [compile_readable hheader hroom' hcolumns, Compiled.append_diagnostics, List.filter_append, hodd, List.append_nil]

lemma reportsRepetitions_sameText (hs : s.Readable header) : s.ReportsRepetitions header (s.SameText header) := by
  constructor
  · intro row earlier
    have hfilter : s.oddityAt row (.repeatsRow earlier) ∈ s.compile.diagnostics ↔
        s.oddityAt row (.repeatsRow earlier) ∈ s.compile.diagnostics.filter Diagnostic.isRepetition := by
      rw [List.mem_filter, and_iff_left]
      rfl
    rw [hfilter, filter_compile hs, List.mem_filterMap]
    constructor
    · rintro ⟨row', hrow, hd⟩
      obtain ⟨earlier', hrepeats, heq⟩ := (repetition?_eq_some_iff hrow _).mp hd
      simp only [oddityAt, Diagnostic.mk.injEq, Option.some.injEq, Remark.oddity.injEq, Oddity.repeatsRow.injEq] at heq
      obtain ⟨-, rfl, -, rfl⟩ := heq
      exact hrepeats
    · intro h
      exact ⟨row, h.row_mem, (repetition?_eq_some_iff h.row_mem _).mpr ⟨earlier, h, rfl⟩⟩
  · rw [filter_compile hs]
    refine enumerates_filterMap id (s.ruleRows_sorted header) fun row d => ?_
    constructor
    · rintro ⟨earlier, h, hd⟩
      exact ⟨row, h.row_mem, rfl, (repetition?_eq_some_iff h.row_mem _).mpr ⟨earlier, h, hd⟩⟩
    · rintro ⟨row', hrow, rfl, hd⟩
      exact (repetition?_eq_some_iff hrow _).mp hd

lemma plain_value {field : RequestField} {op : Template.Operator} {cell : String} {p : Predicate}
    (hcell : ¬ Predicate.HoldsJoint (trim cell).toList) (h : predicate field op (trim cell) = .ok p) :
    Predicate.Plain p.value.toList := by
  have hlast : (trim cell).toList.getLast? ≠ some ' ' := by
    intro hblank
    obtain ⟨_, _, -, -, -, -, hend⟩ := exists_trimChars cell.toList
    rw [trim, String.toList_ofList] at hblank
    exact absurd (hend ' ' hblank) (by decide)
  cases op with
  | equal =>
    cases h
    exact ⟨hcell, hlast⟩
  | notEqual =>
    cases h
    exact ⟨hcell, hlast⟩
  | fits =>
    obtain ⟨pattern, hp, rfl⟩ := map_eq_ok.mp h
    have hsource : pattern.source.toList = "^(?:".toList ++ (trim cell).toList ++ ")$".toList := by
      rw [Pattern.ofText_eq_ok_iff.mp hp, String.toList_append, String.toList_append]
    rw [Predicate.value, hsource]
    refine ⟨fun hjoint => hcell (hjoint.of_enclosed (by decide) (by decide)), ?_⟩
    have hdollar : ")$".toList.getLast? = some '$' := by decide
    rw [List.getLast?_append, hdollar]
    simp

lemma sameText_iff (h : s.Unjoined header) {row₁ row₂ : ℕ} (h₁ : row₁ ∈ s.ruleRows header)
    (h₂ : row₂ ∈ s.ruleRows header) :
    s.SameText header row₁ row₂ ↔ s.conditions header row₁ = s.conditions header row₂ := by
  have hplain : ∀ row ∈ s.ruleRows header, ∀ p ∈ s.conditions header row, Predicate.Plain p.value.toList := by
    intro row hrow p hp
    obtain ⟨column, field, op, hc, -, hpredicate⟩ := mem_predicates_iff.mp hp
    exact plain_value (h row hrow column field op (((s.table header).condition_iff _ _ _).mpr hc)) hpredicate
  exact ⟨Predicate.eq_of_conjunctionText_eq (hplain _ h₁) (hplain _ h₂), congrArg _⟩

lemma Repeats.congr {Alike Alike' : ℕ → ℕ → Prop} {earlier : ℕ} (h : s.Repeats header Alike row earlier)
    (heq : ∀ row₁ ∈ s.ruleRows header, ∀ row₂ ∈ s.ruleRows header, Alike row₁ row₂ ↔ Alike' row₁ row₂) :
    s.Repeats header Alike' row earlier :=
  ⟨h.row_mem, h.earlier_mem, h.above, (heq _ h.earlier_mem _ h.row_mem).mp h.alike,
    fun r hr hlt hgt halike => h.latest r hr hlt hgt ((heq _ hr _ h.row_mem).mpr halike)⟩

lemma ReportsRepetitions.congr {Alike Alike' : ℕ → ℕ → Prop} (h : s.ReportsRepetitions header Alike)
    (heq : ∀ row₁ ∈ s.ruleRows header, ∀ row₂ ∈ s.ruleRows header, Alike row₁ row₂ ↔ Alike' row₁ row₂) :
    s.ReportsRepetitions header Alike' := by
  have hrepeats : s.Repeats header Alike = s.Repeats header Alike' := by
    funext row earlier
    exact propext ⟨fun h => h.congr heq, fun h => h.congr fun r₁ h₁ r₂ h₂ => (heq r₁ h₁ r₂ h₂).symm⟩
  exact ⟨hrepeats ▸ h.reported, hrepeats ▸ h.listed⟩

lemma unjoined_of_unquoted (h : ∀ row ∈ s.ruleRows header, ∀ c ∈ s.columns header,
    '"' ∉ (s.trimmed row c.index).toList) : s.Unjoined header := by
  rintro row hrow column field op hc ⟨f, o, hjoint⟩
  refine h row hrow _ (((s.table header).condition_iff column field op).mp hc) (hjoint.subset ?_)
  simp

end Sheet

/-- The rule rows of a sheet are compared by the texts of their conditions, and so by the conditions themselves if no
cell of them reads like several conditions. -/
theorem Workbook.reportsRepetitions {w : Workbook} {s : Sheet} {header : ℕ} (hs : s ∈ w.ruleSheets)
    (ht : s.Readable header) :
    s.compile.diagnostics <:+: w.compile.diagnostics ∧
    s.compile.rules = (s.ruleRows header).map (s.rowDraft (s.tableName header) (s.columns header)) ∧
    s.ReportsRepetitions header (s.SameText header) ∧
    (s.Unjoined header → s.ReportsRepetitions header fun row₁ row₂ =>
      s.conditions header row₁ = s.conditions header row₂) := by
  have htext := Sheet.reportsRepetitions_sameText ht
  refine ⟨?_, ?_, htext, fun h => htext.congr fun _ h₁ _ h₂ => Sheet.sameText_iff h h₁ h₂⟩
  · rw [compile_diagnostics, List.flatMap_def]
    exact List.infix_of_mem_flatten (List.mem_map_of_mem hs)
  · obtain ⟨hheader, hroom, hcolumns⟩ := Sheet.readable_iff.mp ht
    exact (Sheet.compile_of_header hheader (Nat.lt_of_le_of_lt (Nat.add_le_add_right hroom 3) (by decide)) hcolumns).2

def placeSheet (rows : List (List String)) : Sheet := ⟨"Discounts", [
  ["RuleSet", "loyalty"], [], [], [],
  ["RuleTable Discounts"],
  ["", "CONDITION", "CONDITION", "ACTION"],
  [],
  ["", "country", "state", "discountPercentage"],
  []] ++ rows⟩

def repeatedPlaces : Sheet := placeSheet [["", "AU", "NSW", "0.5"], ["", "AU", "", "0.6"], ["", " AU", "NSW", "0.7"]]

theorem reportsRepetitions_repeatedPlaces :
    repeatedPlaces ∈ (⟨[repeatedPlaces]⟩ : Workbook).ruleSheets ∧ repeatedPlaces.Readable 4 ∧
    repeatedPlaces.Unjoined 4 ∧ repeatedPlaces.Repeats 4 (fun row₁ row₂ =>
      repeatedPlaces.conditions 4 row₁ = repeatedPlaces.conditions 4 row₂) 11 9 := by
  have hs : repeatedPlaces ∈ (⟨[repeatedPlaces]⟩ : Workbook).ruleSheets := by decide +kernel
  have ht : repeatedPlaces.Readable 4 := by decide +kernel
  have hu : repeatedPlaces.Unjoined 4 := Sheet.unjoined_of_unquoted (by decide +kernel)
  have hreport := (Workbook.reportsRepetitions hs ht).2.2.2 hu
  exact ⟨hs, ht, hu, (hreport.reported 11 9).mp (by decide +kernel)⟩

def joinedPlaces : Sheet := placeSheet [["", "AU\" AND state == \"NSW", "", "0.5"], ["", "AU", "NSW", "0.6"]]

theorem reports_joinedPlaces :
    joinedPlaces.Readable 4 ∧ joinedPlaces.ruleRows 4 = [9, 10] ∧
    joinedPlaces.conditions 4 9 ≠ joinedPlaces.conditions 4 10 ∧
    joinedPlaces.oddityAt 10 (.repeatsRow 9) ∈ (⟨[joinedPlaces]⟩ : Workbook).compile.diagnostics := by
  refine ⟨by decide +kernel, by decide +kernel, by decide +kernel, by decide +kernel⟩

end DiscountTables
