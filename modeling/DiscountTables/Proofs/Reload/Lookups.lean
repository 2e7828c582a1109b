import DiscountTables.Lookup
import DiscountTables.Proofs.Reload.Service
import DiscountTables.Proofs.Text.Blank

namespace DiscountTables

open Text

namespace Reloader

variable {σ : Type} [ObjectStore σ Document]

structure Answered (cycles : List (Reloader σ)) (request : Request) (answer : Except ApiError Response) : Prop where
  badRequest : ∀ m, answer = .error (.badRequest m) ↔ (∃ f, trim (request.get f) = "") ∧
    m = "; ".intercalate ((RequestField.all.filter fun f => trim (request.get f) = "").map fun f =>
      f.name ++ " must not be blank")
  internal : (∀ f, trim (request.get f) ≠ "") →
    (answer = .error .internal ↔ ∀ r ∈ cycles, r.cycle.1.outcome.isPublished = false)
  notFound : (∀ f, trim (request.get f) ≠ "") → ∀ base, latest? cycles = some base → ∀ m,
    (answer = .error (.notFound m) ↔
      m = "no discount rule found for request" ∧ ∀ rule ∈ base.rules, rule.applies request = false)
  found : (∀ f, trim (request.get f) ≠ "") → ∀ base, latest? cycles = some base →
    (∃ rule ∈ base.rules, rule.applies request = true) →
    ∃ e, base.evaluate request = .ok e ∧ answer = .ok e.response

end Reloader

namespace RuleBase

variable {base : RuleBase} {request : Request}

lemma evaluate_of_none (h : ∀ rule ∈ base.rules, rule.applies request = false) :
    base.evaluate request = .error .noMatch := by
  have hfiring : base.firing request = [] := by
    rw [firing, List.filter_eq_nil_iff]
    simpa using h
  rw [evaluate, hfiring]

lemma exists_evaluate {rule : Rule} (hmem : rule ∈ base.rules) (h : rule.applies request = true) :
    ∃ e, base.evaluate request = .ok e := by
  have hfiring : rule ∈ base.firing request := List.mem_filter.mpr ⟨hmem, h⟩
  rw [evaluate]
  cases hf : base.firing request with
  | nil =>
    rw [hf] at hfiring
    exact absurd hfiring List.not_mem_nil
  | cons first rest => exact ⟨_, rfl⟩

end RuleBase

section Fetch

variable {request : Request}

lemma blankFields_eq (request : Request) :
    request.blankFields = RequestField.all.filter fun f => trim (request.get f) = "" := by
  rw [Request.blankFields]
  refine List.filter_congr fun f _ => ?_
  rw [Bool.eq_iff_iff, isBlankText_iff, decide_eq_true_iff]

lemma blankFields_eq_nil_iff : request.blankFields = [] ↔ ∀ f, trim (request.get f) ≠ "" := by
  have hall : ∀ f, f ∈ RequestField.all := fun f => by cases f <;> decide
  rw [blankFields_eq, List.filter_eq_nil_iff]
  simp [hall]

lemma Registry.fetchDiscount_of_blank (registry : Registry) (h : ∃ f, trim (request.get f) = "") :
    registry.fetchDiscount request = .error (.badRequest (blankFieldsMessage request.blankFields)) := by
  have hne : request.blankFields ≠ [] := by
    rw [ne_eq, blankFields_eq_nil_iff]
    simpa using h
  rw [fetchDiscount]
  split
  · rename_i hnil
    exact absurd hnil hne
  · rfl

lemma Registry.fetchDiscount_of_filled (registry : Registry) (h : ∀ f, trim (request.get f) ≠ "") :
    registry.fetchDiscount request = match registry.base? with
      | none => .error .internal
      | some base => match base.evaluate request with
        | .ok e => .ok e.response
        | .error e => .error (.ofEvaluation e) := by
  rw [fetchDiscount, blankFields_eq_nil_iff.mpr h, evaluate]
  cases registry.base? <;> rfl

end Fetch

namespace Reloader

variable {σ : Type} [ObjectStore σ Document]

lemma answered_of_blank {cycles : List (Reloader σ)} {registry : Registry} {request : Request}
    (h : ∃ f, trim (request.get f) = "") : Answered cycles request (registry.fetchDiscount request) := by
  obtain ⟨f, hf⟩ := h
  rw [registry.fetchDiscount_of_blank ⟨f, hf⟩, blankFieldsMessage, blankFields_eq]
  refine ⟨fun m => ?_, fun h => absurd hf (h f), fun h => absurd hf (h f), fun h => absurd hf (h f)⟩
  constructor
  · rintro ⟨⟩
    exact ⟨⟨f, hf⟩, rfl⟩
  · rintro ⟨-, rfl⟩
    rfl

lemma answered_of_filled {cycles : List (Reloader σ)} {registry : Registry} {request : Request}
    (hbase : registry.base? = latest? cycles) (h : ∀ f, trim (request.get f) ≠ "") :
    Answered cycles request (registry.fetchDiscount request) := by
  rw [registry.fetchDiscount_of_filled h, hbase]
  cases hlatest : latest? cycles with
  | none =>
    have hinternal := (latest?_eq_none_iff cycles).mp hlatest
    exact ⟨by simp [h], fun _ => iff_of_true rfl hinternal, by simp [hlatest], by simp [hlatest]⟩
  | some base =>
    have hinternal : ¬ ∀ r ∈ cycles, r.cycle.1.outcome.isPublished = false := by
      rw [← latest?_eq_none_iff, hlatest]
      simp
    by_cases hrule : ∃ rule ∈ base.rules, rule.applies request = true
    · obtain ⟨rule, hmem, happlies⟩ := hrule
      obtain ⟨e, he⟩ := RuleBase.exists_evaluate hmem happlies
      simp only [he]
      refine ⟨by simp [h], fun _ => iff_of_false (by simp) hinternal, ?_, ?_⟩
      · rintro - _ hbase' m
        obtain rfl := Option.some.inj (hlatest.symm.trans hbase')
        exact iff_of_false (by simp) fun hnone => by simp [hnone.2 rule hmem] at happlies
      · rintro - _ hbase' -
        obtain rfl := Option.some.inj (hlatest.symm.trans hbase')
        exact ⟨e, he, rfl⟩
    · have hnone : ∀ rule ∈ base.rules, rule.applies request = false := by simpa using hrule
      simp only [RuleBase.evaluate_of_none hnone, ApiError.ofEvaluation]
      refine ⟨by simp [h], fun _ => iff_of_false (by simp) hinternal, ?_, ?_⟩
      · rintro - _ hbase' m
        obtain rfl := Option.some.inj (hlatest.symm.trans hbase')
        constructor
        · rintro ⟨⟩
          exact ⟨rfl, hnone⟩
        · rintro ⟨rfl, -⟩
          rfl
      · rintro - _ hbase' happlies
        obtain rfl := Option.some.inj (hlatest.symm.trans hbase')
        exact absurd happlies hrule

lemma answered_of_base? {cycles : List (Reloader σ)} {registry : Registry}
    (hbase : registry.base? = latest? cycles) (request : Request) :
    Answered cycles request (registry.fetchDiscount request) := by
  by_cases h : ∃ f, trim (request.get f) = ""
  · exact answered_of_blank h
  · exact answered_of_filled hbase fun f hf => h ⟨f, hf⟩

/-- Whatever a run was made of, a lookup answers from the rule base of the latest cycle that published, and once there
is one, no lookup is left without rules. -/
theorem answered (settings : Settings) (store : σ) (steps : List (ServiceStep σ)) (request : Request) :
    let start : Reloader σ := { settings, store }
    Answered (start.cycles steps) request ((start.serveAll steps).registry.fetchDiscount request) ∧
      ((∃ r ∈ start.cycles steps, r.cycle.1.outcome.isPublished = true) → ∀ later,
        (start.serveAll (steps ++ later)).registry.fetchDiscount request ≠ .error .internal) := by
  intro start
  have hbase : ∀ steps, (start.serveAll steps).registry.base? = latest? (start.cycles steps) := by
    intro steps
    rw [base?_serveAll]
    exact Option.or_none
  refine ⟨answered_of_base? (hbase steps) request, ?_⟩
  rintro ⟨r, hr, hpublished⟩ later hinternal
  by_cases h : ∃ f, trim (request.get f) = ""
  · rw [Registry.fetchDiscount_of_blank _ h] at hinternal
    cases hinternal
  · have hlater := answered_of_base? (hbase (steps ++ later)) request
    have hnone := (hlater.internal fun f hf => h ⟨f, hf⟩).mp hinternal
    rw [cycles_append] at hnone
    simp [hnone r (List.mem_append_left _ hr)] at hpublished

end Reloader

end DiscountTables
