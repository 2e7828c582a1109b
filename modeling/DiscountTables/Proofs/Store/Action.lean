import DiscountTables.Store.Basic
import Mathlib.Tactic.Lemma

namespace DiscountTables

variable {σ ε ε' β γ : Type}

lemma run_bind (x : StoreAction σ ε β) (k : β → StoreAction σ ε γ) (s : σ) :
    (x >>= k).run s = match x.run s with
      | (.error e, s') => (.error e, s')
      | (.ok a, s') => (k a).run s' := by
  change (ExceptT.bind x k).run s = _
  simp only [ExceptT.bind, ExceptT.run, ExceptT.mk, bind, StateT.bind]
  cases h : x s with
  | mk result s' => cases result <;> rfl

lemma run_adapt (f : ε → ε') (x : StoreAction σ ε β) (s : σ) :
    (x.adapt f).run s = ((x.run s).1.mapError f, (x.run s).2) := by
  rfl

lemma run_get (s : σ) : (get : StoreAction σ ε σ).run s = (.ok s, s) := by
  rfl

lemma run_modify (change : σ → σ) (s : σ) :
    (modify change : StoreAction σ ε PUnit).run s = (.ok ⟨⟩, change s) := by
  rfl

end DiscountTables
