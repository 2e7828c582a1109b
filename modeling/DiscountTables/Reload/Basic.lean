import DiscountTables.Loading
import DiscountTables.Promotion
import DiscountTables.Registry
import DiscountTables.Settings

/-!
The reload cycle: promote the newest document, see whether the alias has changed, fetch it, load it, and
publish its rule base. A cycle that fails leaves what is published alone.
-/

namespace DiscountTables

inductive ReloadError where
  | promotion (e : PromotionError)
  | store (e : StoreError)
  | load (e : LoadError)
  deriving DecidableEq

def ReloadError.message : ReloadError → String
  | promotion e => e.message
  | store e => e.message
  | load e => e.message

inductive ReloadOutcome where
  | unchanged
  | published (versionTag : String) (rules : Nat)
  | failed (e : ReloadError)
  deriving DecidableEq

def ReloadOutcome.isPublished : ReloadOutcome → Bool
  | published .. => true
  | _ => false

structure CycleReport where
  outcome : ReloadOutcome
  notices : List Notice := []
  deriving DecidableEq

/-- Promotes, then fetches the alias unless its tag is the one applied last. The tag that counts from
then on is that of the fetched document, which may be newer than the one that was compared. -/
def fetchIfChanged {σ : Type} [ObjectStore σ Document] (settings : Settings)
    (lastApplied : Option String) : StoreAction σ ReloadError (Option (Fetched Document)) := do
  let _ ← (promote settings.keyPrefix settings.aliasKey).adapt ReloadError.promotion
  let tag ← (ObjectStore.head settings.aliasKey).adapt ReloadError.store
  if lastApplied = some tag then return none
  else return some (← (ObjectStore.get settings.aliasKey).adapt ReloadError.store)

/-- Keeps a registry in step with a store. The tag that was applied last only changes when a rule base
is published. -/
structure Reloader (σ : Type) where
  settings : Settings
  store : σ
  registry : Registry := {}
  lastApplied : Option String := none

namespace Reloader

variable {σ : Type}

def start (settings : Settings) (store : σ) : Except SettingsError (Reloader σ) :=
  settings.check.map fun settings => { settings, store }

def apply (r : Reloader σ) (document : Fetched Document) : CycleReport × Reloader σ :=
  let notices := document.content.loadNotices
  match document.content.load document.versionTag with
  | .error e => (⟨.failed (.load e), notices⟩, r)
  | .ok base =>
    (⟨.published base.versionTag base.size, notices⟩,
      { r with registry := r.registry.publish base, lastApplied := some base.versionTag })

def cycle [ObjectStore σ Document] (r : Reloader σ) : CycleReport × Reloader σ :=
  match (fetchIfChanged r.settings r.lastApplied).run r.store with
  | (.error e, store) => (⟨.failed e, []⟩, { r with store })
  | (.ok none, store) => (⟨.unchanged, []⟩, { r with store })
  | (.ok (some document), store) => apply { r with store } document

def afterCycle [ObjectStore σ Document] (r : Reloader σ) : Reloader σ := r.cycle.2

end Reloader

end DiscountTables
