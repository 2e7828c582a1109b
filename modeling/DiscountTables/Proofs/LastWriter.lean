import DiscountTables.Proofs.Enumeration
import DiscountTables.Proofs.Evaluation
import DiscountTables.Registry

namespace DiscountTables

namespace RuleBase

structure Fires (base : RuleBase) (request : Request) (ordinal : ℕ) (rule : Rule) : Prop where
  mem : rule ∈ base.rules
  ordinal_eq : rule.ordinal = ordinal
  holds : ∀ p ∈ rule.predicates, p.holds request = true

def Writes (base : RuleBase) (request : Request) (field : ResponseField) (place : ℕ ×ₗ ℕ) (value : String) : Prop :=
  ∃ rule, base.Fires request (ofLex place).1 rule ∧ rule.effects[(ofLex place).2]? = some ⟨field, value⟩

variable {base : RuleBase} {request : Request} {ruleSet tag : String} {drafts : List RuleDraft} {rule : Rule}

lemma mem_rules_ofDrafts_iff :
    rule ∈ (ofDrafts ruleSet tag drafts).rules ↔ rule.ruleSet = ruleSet ∧ drafts[rule.ordinal]? = some rule.draft := by
  simp only [ofDrafts_eq, List.mem_mapIdx, List.getElem?_eq_some_iff]
  constructor
  · rintro ⟨i, hi, rfl⟩
    exact ⟨rfl, hi, rfl⟩
  · rintro ⟨rfl, hi, hdraft⟩
    refine ⟨rule.ordinal, hi, ?_⟩
    rw [hdraft]
    rfl

def Ordered (base : RuleBase) : Prop := base.rules.Pairwise fun a b => a.ordinal < b.ordinal

lemma ordered_ofDrafts : (ofDrafts ruleSet tag drafts).Ordered := by
  rw [Ordered, List.pairwise_iff_getElem]
  intro i j hi hj hij
  simpa [ofDrafts_eq] using hij

lemma mem_firing_iff : rule ∈ base.firing request ↔ base.Fires request rule.ordinal rule := by
  simp only [firing, List.mem_filter, Rule.applies, List.all_eq_true]
  exact ⟨fun h => ⟨h.1, rfl, h.2⟩, fun h => ⟨h.mem, h.holds⟩⟩

lemma Fires.mem_firing {i : ℕ} (h : base.Fires request i rule) : rule ∈ base.firing request := by
  obtain rfl := h.ordinal_eq
  exact mem_firing_iff.mpr h

namespace Ordered

variable (h : base.Ordered) (request)
include h

lemma enumerates_names : Enumerates (fun i name => ∃ rule, base.Fires request i rule ∧ rule.name = name)
    ((base.firing request).map Rule.name) := by
  rw [← List.filterMap_eq_map]
  refine enumerates_filterMap Rule.ordinal (h.filter _) fun i name => ?_
  constructor
  · rintro ⟨rule, hfires, rfl⟩
    exact ⟨rule, hfires.mem_firing, hfires.ordinal_eq, rfl⟩
  · rintro ⟨rule, hmem, rfl, hname⟩
    exact ⟨rule, mem_firing_iff.mp hmem, Option.some.inj hname⟩

lemma enumerates_written (field : ResponseField) : Enumerates (base.Writes request field)
    ((base.firing request).flatMap fun rule => rule.effects.filterMap (Effect.written? field)) := by
  refine enumerates_flatMap Rule.ordinal (h.filter _)
    (fun rule _ => enumerates_filterMap_getElem? rule.effects (Effect.written? field)) fun i j value => ?_
  have hwritten : ∀ e : Effect, e.written? field = some value ↔ e = ⟨field, value⟩ := by
    rintro ⟨f, v⟩
    by_cases hf : f = field <;> simp [Effect.written?, hf]
  simp only [Writes, ofLex_toLex, hwritten, exists_eq_right]
  constructor
  · rintro ⟨rule, hfires, he⟩
    exact ⟨rule, hfires.mem_firing, hfires.ordinal_eq, he⟩
  · rintro ⟨rule, hmem, rfl, he⟩
    exact ⟨rule, mem_firing_iff.mp hmem, he⟩

lemma writes_unique {field : ResponseField} {place : ℕ ×ₗ ℕ} {v w : String} (hv : base.Writes request field place v)
    (hw : base.Writes request field place w) : v = w := by
  obtain ⟨a, ha, hav⟩ := hv
  obtain ⟨b, hb, hbw⟩ := hw
  have hnodup : (base.rules.map Rule.ordinal).Nodup := List.pairwise_map.mpr (h.imp Nat.ne_of_lt)
  obtain rfl := List.inj_on_of_nodup_map hnodup ha.mem hb.mem (ha.ordinal_eq.trans hb.ordinal_eq.symm)
  exact congrArg Effect.value (Option.some.inj (hav.symm.trans hbw))

lemma getLast?_written_eq_some_iff (field : ResponseField) (value : String) :
    ((base.firing request).flatMap fun rule => rule.effects.filterMap (Effect.written? field)).getLast? = some value ↔
      LastEntry (base.Writes request field) value :=
  (h.enumerates_written request field).getLast?_eq_some_iff (fun _ _ _ => h.writes_unique request) value

lemma getLast?_written_eq_none_iff (field : ResponseField) :
    ((base.firing request).flatMap fun rule => rule.effects.filterMap (Effect.written? field)).getLast? = none ↔
      ∀ place value, ¬ base.Writes request field place value := by
  rw [List.getLast?_eq_none_iff]
  exact (h.enumerates_written request field).eq_nil_iff

end Ordered

/-- A rule base of any rules answers with the names of the rules whose predicates all hold, in the order in which the
rules were defined, and with the value that comes last for each field. -/
theorem lastWriterWins (ruleSet tag : String) (drafts : List RuleDraft) (registry : Registry) (request : Request) :
    let base := RuleBase.ofDrafts ruleSet tag drafts
    (∀ rule, rule ∈ base.rules ↔ rule.ruleSet = ruleSet ∧ drafts[rule.ordinal]? = some rule.draft) ∧
    match (registry.publish base).evaluate request with
    | .error e => e = .noMatch ∧ ∀ i rule, ¬ base.Fires request i rule
    | .ok e => (∃ i rule, base.Fires request i rule) ∧
        Enumerates (fun i name => ∃ rule, base.Fires request i rule ∧ rule.name = name) e.fired ∧
        ∀ field, (∀ value, e.response.get field = some value ↔ LastEntry (base.Writes request field) value) ∧
          (e.response.get field = none ↔ ∀ place value, ¬ base.Writes request field place value) := by
  intro base
  have hordered : base.Ordered := ordered_ofDrafts
  refine ⟨fun rule => mem_rules_ofDrafts_iff, ?_⟩
  have hpublished : (registry.publish base).evaluate request = base.evaluate request := rfl
  rw [hpublished, evaluate]
  cases hfiring : base.firing request with
  | nil =>
    refine ⟨rfl, fun i rule hfires => ?_⟩
    exact List.not_mem_nil (hfiring ▸ hfires.mem_firing)
  | cons rule rest =>
    have hnames := hordered.enumerates_names request
    have hsome := hordered.getLast?_written_eq_some_iff request
    have hnone := hordered.getLast?_written_eq_none_iff request
    rw [hfiring] at hnames hsome hnone
    refine ⟨⟨rule.ordinal, rule, mem_firing_iff.mp (by rw [hfiring]; exact List.mem_cons_self)⟩, hnames, ?_⟩
    intro field
    rw [get_foldl_fire, List.filterMap_flatMap]
    exact ⟨hsome field, hnone field⟩

end RuleBase

end DiscountTables
