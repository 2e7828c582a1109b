import DiscountTables.Loading
import DiscountTables.Proofs.Evaluation
import DiscountTables.Proofs.Results

namespace DiscountTables

lemma Compiled.ruleBase_eq_ok_iff {c : Compiled} {ruleSet tag : String} {base : RuleBase} :
    c.ruleBase ruleSet tag = .ok base ↔ c.errors = [] ∧ base = .ofDrafts ruleSet tag c.rules := by
  simp only [Compiled.ruleBase]
  split
  · rename_i h
    simp [h, eq_comm]
  · rename_i h
    have hn : c.errors ≠ [] := h
    simp [hn]

lemma Workbook.load_eq_ok_iff {w : Workbook} {tag : String} {base : RuleBase} :
    w.load tag = .ok base ↔ w.validate = .ok () ∧ ∃ ruleSet, w.ruleSet = .ok ruleSet ∧
      w.compile.errors = [] ∧ base = .ofDrafts ruleSet tag w.compile.rules := by
  simp only [Workbook.load, bind_eq_ok, mapError_eq_ok, Compiled.ruleBase_eq_ok_iff]
  constructor
  · rintro ⟨_, hv, h⟩
    exact ⟨hv, h⟩
  · rintro ⟨hv, h⟩
    exact ⟨(), hv, h⟩

lemma Workbook.load_versionTag {w : Workbook} {tag : String} {base : RuleBase} (h : w.load tag = .ok base) :
    base.versionTag = tag := by
  obtain ⟨_, _, _, _, rfl⟩ := load_eq_ok_iff.mp h
  exact RuleBase.versionTag_ofDrafts _ _ _

lemma Document.load_versionTag {d : Document} {tag : String} {base : RuleBase} (h : d.load tag = .ok base) :
    base.versionTag = tag := by
  obtain ⟨w, _, h⟩ := bind_eq_ok.mp h
  exact w.load_versionTag h

def Document.ofRows (name : String) (rows : List (List String)) : Document :=
  .spreadsheet ⟨[⟨name, (rows.zipIdx.map fun (texts, row) =>
    texts.zipIdx.map fun (text, column) => ⟨row, column, .sharedText, text⟩).flatten⟩], false⟩

def rateDocument (rate : String) : Document := .ofRows "Discounts" [
  ["RuleSet", "loyalty"], [], [], [],
  ["RuleTable Discounts"],
  ["", "CONDITION", "", "", "", "", "ACTION"],
  [],
  ["", "country", "", "", "", "", "discountPercentage"],
  [],
  ["", "AU", "NSW", "SYD", "GLD", "1", rate]]

end DiscountTables
