import DiscountTables.Proofs.Reload.Cycle
import DiscountTables.Proofs.Store.Shared

namespace DiscountTables

variable {σ : Type} [ObjectStore σ Document]

lemma agrees_promote (keyPrefix aliasKey : String) :
    Agrees (promote (σ := SharedStore σ Document) keyPrefix aliasKey) (promote keyPrefix aliasKey) := by
  refine Agrees.bind ((agrees_call .listed _).adapt _) ?_
  intro objects
  cases ObjectInfo.newest? objects with
  | none => exact agrees_throw _
  | some newest =>
    simp only
    split
    · exact agrees_pure _
    · exact ((agrees_call .copied _).adapt _).bind fun _ => agrees_pure _

lemma agrees_fetchIfChanged (settings : Settings) (lastApplied : Option String) :
    Agrees (fetchIfChanged (σ := SharedStore σ Document) settings lastApplied)
      (fetchIfChanged settings lastApplied) := by
  refine ((agrees_promote _ _).adapt _).bind fun _ => ?_
  refine ((agrees_call .headed _).adapt _).bind fun tag => ?_
  split
  · exact agrees_pure _
  · exact ((agrees_call .fetched _).adapt _).bind fun _ => agrees_pure _

namespace Reloader

def unshared (r : Reloader (SharedStore σ Document)) : Reloader σ :=
  ⟨r.settings, r.store.store, r.registry, r.lastApplied⟩

variable {r : Reloader (SharedStore σ Document)}

lemma unshared_cycle (h : r.store.Untouched) : r.cycle.1 = r.unshared.cycle.1 ∧
    r.afterCycle.unshared = r.unshared.afterCycle ∧ r.afterCycle.store.Untouched := by
  obtain ⟨hresult, hstore, huntouched⟩ := agrees_fetchIfChanged r.settings r.lastApplied r.store h
  rw [afterCycle, afterCycle, cycle, cycle]
  simp only [unshared] at hresult hstore huntouched ⊢
  rcases hshared : (fetchIfChanged r.settings r.lastApplied).run r.store with ⟨result, s⟩
  rcases hplain : (fetchIfChanged r.settings r.lastApplied).run r.store.store with ⟨result', t⟩
  simp only [hshared, hplain] at hresult hstore huntouched
  subst hresult hstore
  rcases result with e | _ | document
  · exact ⟨rfl, rfl, huntouched⟩
  · exact ⟨rfl, rfl, huntouched⟩
  · simp only [apply]
    cases document.content.load document.versionTag <;> exact ⟨rfl, rfl, huntouched⟩

lemma unshared_afterCycles (h : r.store.Untouched) (n : ℕ) :
    (r.afterCycles n).unshared = r.unshared.afterCycles n ∧ (r.afterCycles n).store.Untouched := by
  induction n with
  | zero => exact ⟨rfl, h⟩
  | succ n ih =>
    obtain ⟨hsame, huntouched⟩ := ih
    obtain ⟨-, hsame', huntouched'⟩ := unshared_cycle huntouched
    rw [afterCycles_succ, afterCycles_succ, hsame', hsame]
    exact ⟨rfl, huntouched'⟩

end Reloader

end DiscountTables
