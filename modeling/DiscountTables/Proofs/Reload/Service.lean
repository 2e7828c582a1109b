import DiscountTables.Proofs.Reload.Cycle

namespace DiscountTables

inductive ServiceStep (σ : Type) where
  | write (change : σ → σ)
  | cycle
  | lookup (request : Request)

namespace Reloader

variable {σ : Type} [ObjectStore σ Document]

def serve (r : Reloader σ) : ServiceStep σ → Reloader σ
  | .write change => { r with store := change r.store }
  | .cycle => r.afterCycle
  | .lookup _ => r

def serveAll (r : Reloader σ) (steps : List (ServiceStep σ)) : Reloader σ := steps.foldl serve r

lemma serveAll_append (r : Reloader σ) (steps later : List (ServiceStep σ)) :
    r.serveAll (steps ++ later) = (r.serveAll steps).serveAll later := List.foldl_append

def loaded? (r : Reloader σ) : Option RuleBase :=
  match ((fetchIfChanged r.settings r.lastApplied).run r.store).1 with
  | .ok (some document) => (document.content.load document.versionTag).toOption
  | _ => none

def cycles : Reloader σ → List (ServiceStep σ) → List (Reloader σ)
  | _, [] => []
  | r, .cycle :: rest => r :: r.afterCycle.cycles rest
  | r, step :: rest => (r.serve step).cycles rest

def latest? (cycles : List (Reloader σ)) : Option RuleBase := (cycles.filterMap loaded?).getLast?

lemma cycle_loaded (r : Reloader σ) : r.cycle.1.outcome.isPublished = r.loaded?.isSome ∧
    r.afterCycle.registry.base? = r.loaded?.or r.registry.base? := by
  rw [afterCycle, cycle, loaded?]
  rcases (fetchIfChanged r.settings r.lastApplied).run r.store with ⟨_ | _ | document, s⟩
  · exact ⟨rfl, rfl⟩
  · exact ⟨rfl, rfl⟩
  · simp only [apply]
    cases document.content.load document.versionTag <;> exact ⟨rfl, rfl⟩

lemma base?_serveAll (r : Reloader σ) (steps : List (ServiceStep σ)) :
    (r.serveAll steps).registry.base? = (latest? (r.cycles steps)).or r.registry.base? := by
  induction steps generalizing r with
  | nil => rfl
  | cons step rest ih =>
    cases step with
    | write change => exact ih _
    | lookup request => exact ih r
    | cycle =>
      refine (ih r.afterCycle).trans ?_
      rw [r.cycle_loaded.2, cycles, latest?, latest?, List.filterMap_cons]
      cases r.loaded? with
      | none => rfl
      | some base => cases h : ((r.afterCycle.cycles rest).filterMap loaded?).getLast? <;> simp [h, List.getLast?_cons]

lemma cycles_append (r : Reloader σ) (steps later : List (ServiceStep σ)) :
    r.cycles (steps ++ later) = r.cycles steps ++ (r.serveAll steps).cycles later := by
  induction steps generalizing r with
  | nil => rfl
  | cons step rest ih =>
    cases step with
    | cycle => exact congrArg (r :: ·) (ih r.afterCycle)
    | _ => exact ih _

lemma settings_serveAll (r : Reloader σ) (steps : List (ServiceStep σ)) :
    (r.serveAll steps).settings = r.settings := by
  induction steps generalizing r with
  | nil => rfl
  | cons s rest ih =>
    refine (ih (r.serve s)).trans ?_
    cases s with
    | cycle => exact r.course.settings
    | _ => rfl

lemma latest?_eq_none_iff (cycles : List (Reloader σ)) :
    latest? cycles = none ↔ ∀ r ∈ cycles, r.cycle.1.outcome.isPublished = false := by
  rw [latest?, List.getLast?_eq_none_iff, List.filterMap_eq_nil_iff]
  simp only [(cycle_loaded _).1, Option.isSome_eq_false_iff, Option.isNone_iff_eq_none]

end Reloader

end DiscountTables
