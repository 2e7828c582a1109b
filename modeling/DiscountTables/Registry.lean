import DiscountTables.RuleBase

/-!
The place where a rule base is published for lookups. Readers keep the snapshot that they took, so
publications are numbered.
-/

namespace DiscountTables

structure Publication where
  number : Nat
  base : RuleBase
  deriving DecidableEq

structure Registry where
  current : Option Publication := none
  deriving DecidableEq

namespace Registry

def base? (r : Registry) : Option RuleBase := r.current.map (·.base)

def versionTag? (r : Registry) : Option String := r.base?.map (·.versionTag)

def publish (r : Registry) (base : RuleBase) : Registry :=
  ⟨some ⟨r.current.elim 0 fun p => p.number + 1, base⟩⟩

def evaluate (r : Registry) (request : Request) : Except EvaluationError Evaluation :=
  match r.base? with
  | none => .error .rulesUnavailable
  | some base => base.evaluate request

end Registry

end DiscountTables
