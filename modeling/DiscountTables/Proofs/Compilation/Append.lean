import DiscountTables.Loading
import DiscountTables.Proofs.Compilation.Errors
import DiscountTables.Proofs.Evaluation
import DiscountTables.Proofs.Validation

namespace DiscountTables

def RuleBase.followedBy (a b : RuleBase) : RuleBase :=
  { a with rules := a.rules ++ b.rules.map fun rule => { rule with ordinal := rule.ordinal + a.size } }

lemma RuleBase.ofDrafts_append (ruleSet tag : String) (ds es : List RuleDraft) :
    ofDrafts ruleSet tag (ds ++ es) = (ofDrafts ruleSet tag ds).followedBy (ofDrafts ruleSet tag es) := by
  simp only [RuleBase.ofDrafts_eq, followedBy, size, List.mapIdx_append, List.length_mapIdx]
  congr 2
  simp [List.mapIdx_eq_zipIdx_map, Function.comp_def]

def reported {ε α δ : Type} (found : ε → List δ) : Except ε α → List δ
  | .ok _ => []
  | .error e => found e

def ValidationError.cellViolations : ValidationError → List CellViolation
  | cells violations => violations
  | noRuleSheets | blankRuleSet _ => []

namespace Compiled

lemma ruleBase_eq (c : Compiled) (ruleSet tag : String) :
    c.ruleBase ruleSet tag =
      if c.errors = [] then .ok (.ofDrafts ruleSet tag c.rules) else .error ⟨c.errors⟩ := by
  simp only [ruleBase]
  split
  · rename_i h
    rw [if_pos h]
  · rename_i h
    rw [if_neg h]

lemma ruleBase_append (a b : Compiled) (ruleSet tag : String) :
    (a.append b).ruleBase ruleSet tag =
      match a.ruleBase ruleSet tag, b.ruleBase ruleSet tag with
      | .ok x, .ok y => .ok (x.followedBy y)
      | x, y => .error ⟨reported CompileError.diagnostics x ++ reported CompileError.diagnostics y⟩ := by
  simp only [ruleBase_eq, append_errors, append_rules, List.append_eq_nil_iff]
  by_cases ha : a.errors = [] <;> by_cases hb : b.errors = []
  · simp [ha, hb, RuleBase.ofDrafts_append]
  · simp [ha, hb, reported]
  · simp [ha, hb, reported]
  · simp [ha, hb, reported]

end Compiled

namespace Workbook

lemma compile_append (a b : List Sheet) :
    (Workbook.mk (a ++ b)).compile = (Workbook.mk a).compile.append (Workbook.mk b).compile := by
  simp only [compile, ruleSheets, List.filter_append, List.foldl_append]
  rw [foldl_compileInto _ (b.filter Sheet.isRuleSheet), foldl_compileInto {} (b.filter Sheet.isRuleSheet)]
  rfl

lemma violations_append (a b : List Sheet) :
    (Workbook.mk (a ++ b)).violations = (Workbook.mk a).violations ++ (Workbook.mk b).violations := by
  simp [violations, ruleSheets]

lemma reported_validate (w : Workbook) :
    reported ValidationError.cellViolations w.validate = w.violations := by
  simp only [validate]
  split
  · rename_i h
    exact h.symm
  · rfl

/-- Two lists of sheets compile as one if both do, the rules of the second numbered on after those of the
first; otherwise the errors of the first come before those of the second. So do the violations. -/
theorem compile_append_sheets (a b : List Sheet) (ruleSet tag : String) :
    ((Workbook.mk (a ++ b)).compile.ruleBase ruleSet tag =
      match (Workbook.mk a).compile.ruleBase ruleSet tag, (Workbook.mk b).compile.ruleBase ruleSet tag with
      | .ok x, .ok y => .ok (x.followedBy y)
      | x, y => .error ⟨reported CompileError.diagnostics x ++ reported CompileError.diagnostics y⟩) ∧
    reported ValidationError.cellViolations (Workbook.mk (a ++ b)).validate =
      reported ValidationError.cellViolations (Workbook.mk a).validate ++
        reported ValidationError.cellViolations (Workbook.mk b).validate ∧
    ((Workbook.mk (a ++ b)).validate = .ok () ↔
      (Workbook.mk a).validate = .ok () ∧ (Workbook.mk b).validate = .ok ()) := by
  refine ⟨?_, ?_, ?_⟩
  · rw [compile_append, Compiled.ruleBase_append]
  · rw [reported_validate, reported_validate, reported_validate, violations_append]
  · rw [validate_eq_ok_iff, validate_eq_ok_iff, validate_eq_ok_iff, violations_append,
      List.append_eq_nil_iff]

end Workbook

end DiscountTables
