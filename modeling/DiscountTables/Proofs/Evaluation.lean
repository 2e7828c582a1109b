import DiscountTables.RuleBase
import Mathlib.Tactic

namespace DiscountTables

def RuleDraft.applies (d : RuleDraft) (r : Request) : Bool := d.predicates.all fun p => p.holds r

def Rule.draft (rule : Rule) : RuleDraft := ⟨rule.name, rule.predicates, rule.effects⟩

namespace RuleBase

lemma foldl_push (base : RuleBase) (drafts : List RuleDraft) : drafts.foldl push base =
    { base with rules := base.rules ++
        drafts.mapIdx fun i d => ⟨d.name, base.ruleSet, base.size + i, d.predicates, d.effects⟩ } := by
  induction drafts generalizing base with
  | nil => simp
  | cons d rest ih => simp [ih, push, size, Nat.add_assoc, Nat.add_comm 1]

lemma ofDrafts_eq (ruleSet versionTag : String) (drafts : List RuleDraft) : ofDrafts ruleSet versionTag drafts =
    ⟨ruleSet, versionTag, drafts.mapIdx fun i d => ⟨d.name, ruleSet, i, d.predicates, d.effects⟩⟩ := by
  simp [ofDrafts, foldl_push, size]

lemma ruleSet_ofDrafts (ruleSet versionTag : String) (drafts : List RuleDraft) :
    (ofDrafts ruleSet versionTag drafts).ruleSet = ruleSet := by
  rw [ofDrafts_eq]

lemma versionTag_ofDrafts (ruleSet versionTag : String) (drafts : List RuleDraft) :
    (ofDrafts ruleSet versionTag drafts).versionTag = versionTag := by
  rw [ofDrafts_eq]

lemma map_draft_ofDrafts (ruleSet versionTag : String) (drafts : List RuleDraft) :
    (ofDrafts ruleSet versionTag drafts).rules.map Rule.draft = drafts := by
  simp [ofDrafts_eq, List.mapIdx_eq_zipIdx_map, Rule.draft, Function.comp_def]

lemma map_draft_firing (ruleSet versionTag : String) (drafts : List RuleDraft) (r : Request) :
    ((ofDrafts ruleSet versionTag drafts).firing r).map Rule.draft = drafts.filter fun d => d.applies r := by
  conv_rhs => rw [← map_draft_ofDrafts ruleSet versionTag drafts, List.filter_map]
  rfl

end RuleBase

def Effect.written? (field : ResponseField) (e : Effect) : Option String :=
  if e.field = field then some e.value else none

lemma get_foldl_apply (field : ResponseField) (effects : List Effect) (response : Response) :
    (effects.foldl Effect.apply response).get field =
      (effects.filterMap (Effect.written? field)).getLast?.or (response.get field) := by
  induction effects generalizing response with
  | nil => rfl
  | cons e rest ih =>
    rw [List.foldl_cons, ih, Effect.apply, Response.get_set, List.filterMap_cons, Effect.written?]
    by_cases he : e.field = field
    · cases h : (rest.filterMap (Effect.written? field)).getLast? <;> simp [he, h, List.getLast?_cons]
    · simp [he]

lemma get_foldl_fire (field : ResponseField) (rules : List Rule) :
    (rules.foldl (fun response (rule : Rule) => rule.fire response) {}).get field =
      ((rules.flatMap Rule.effects).filterMap (Effect.written? field)).getLast? := by
  have h := get_foldl_apply field (rules.flatMap Rule.effects) {}
  rw [List.foldl_flatMap, Response.get_empty, Option.or_none] at h
  exact h

lemma evaluate_ofDrafts (ruleSet versionTag : String) (drafts : List RuleDraft) (r : Request) :
    let fired := drafts.filter fun d => d.applies r
    match (RuleBase.ofDrafts ruleSet versionTag drafts).evaluate r with
    | .error e => e = .noMatch ∧ fired = []
    | .ok e => fired ≠ [] ∧ e.fired = fired.map RuleDraft.name ∧ e.versionTag = versionTag ∧
        ∀ field, e.response.get field =
          ((fired.flatMap RuleDraft.effects).filterMap (Effect.written? field)).getLast? := by
  intro fired
  have hf : ((RuleBase.ofDrafts ruleSet versionTag drafts).firing r).map Rule.draft = fired :=
    RuleBase.map_draft_firing ruleSet versionTag drafts r
  simp only [RuleBase.evaluate]
  cases hr : (RuleBase.ofDrafts ruleSet versionTag drafts).firing r with
  | nil =>
    rw [hr] at hf
    exact ⟨rfl, hf.symm⟩
  | cons rule rest =>
    rw [hr] at hf
    refine ⟨?_, ?_, RuleBase.versionTag_ofDrafts _ _ _, ?_⟩
    · rw [← hf]
      simp
    · rw [← hf, List.map_map]
      rfl
    · intro field
      rw [get_foldl_fire, ← hf, List.flatMap_map]
      rfl

end DiscountTables
