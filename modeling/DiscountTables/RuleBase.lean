import DiscountTables.Rule

/-!
Rule bases: the rules of one document, all of one rule set, in firing order, and what they answer.

Every rule whose predicates hold fires; later effects overwrite earlier ones.
-/

namespace DiscountTables

structure RuleBase where
  ruleSet : String
  versionTag : String
  rules : List Rule
  deriving DecidableEq

namespace RuleBase

def size (base : RuleBase) : Nat := base.rules.length

/-- Adds a rule. Its ordinal is the number of rules that were added before. -/
def push (base : RuleBase) (d : RuleDraft) : RuleBase :=
  { base with rules := base.rules ++ [⟨d.name, base.ruleSet, base.size, d.predicates, d.effects⟩] }

def ofDrafts (ruleSet versionTag : String) (drafts : List RuleDraft) : RuleBase :=
  drafts.foldl push ⟨ruleSet, versionTag, []⟩

def isEmpty (base : RuleBase) : Bool := base.size == 0

def rulesIn (base : RuleBase) (ruleSet : String) : List Rule :=
  if ruleSet = base.ruleSet then base.rules else []

def executionOrder (base : RuleBase) : List String := base.rules.map (·.name)

def text (base : RuleBase) : String :=
  "RuleBase(" ++ base.ruleSet ++ ", " ++ toString base.size ++ " rules, " ++
    (if base.versionTag = "" then "untagged" else base.versionTag) ++ ")"

end RuleBase

inductive EvaluationError where
  | noMatch
  | rulesUnavailable
  deriving DecidableEq, Repr

def EvaluationError.message : EvaluationError → String
  | noMatch => "no discount rule found for request"
  | rulesUnavailable => "no rule base has been published yet"

structure Evaluation where
  response : Response
  fired : List String
  versionTag : String
  deriving DecidableEq, Repr

def Evaluation.text (e : Evaluation) : String :=
  "fired: [" ++ ", ".intercalate e.fired ++ "], conversionRateUSD: " ++
    e.response.conversionRate.getD "-" ++ ", discountPercentage: " ++
    e.response.discountPercentage.getD "-" ++ ", version: " ++ e.versionTag

namespace RuleBase

def firing (base : RuleBase) (r : Request) : List Rule := base.rules.filter fun rule => rule.applies r

def evaluate (base : RuleBase) (r : Request) : Except EvaluationError Evaluation :=
  match base.firing r with
  | [] => .error .noMatch
  | fired =>
    .ok { response := fired.foldl (fun response rule => rule.fire response) {}
          fired := fired.map (·.name)
          versionTag := base.versionTag }

end RuleBase

end DiscountTables
