import DiscountTables.Proofs.Reload.Alone
import DiscountTables.Proofs.Reload.Memory
import DiscountTables.Proofs.Store.Switched

namespace DiscountTables

open scoped Classical

namespace Reloader

section Calls

variable {σ : Type} [ObjectStore σ Document] (r : Reloader σ)

def listing : Except StoreError (List ObjectInfo) := ((ObjectStore.list r.settings.keyPrefix).run r.store).1

def Copies : Prop := ∃ objects newest, r.listing = .ok objects ∧ ObjectInfo.newest? objects = some newest ∧
  newest.key ≠ r.settings.aliasKey

def Promotes : Prop := ∃ p, r.promotion.1 = .ok p

def Fetches : Prop := r.Promotes ∧ ∃ tag,
  ((ObjectStore.head r.settings.aliasKey).run r.promotion.2).1 = .ok tag ∧ r.lastApplied ≠ some tag

noncomputable def callsAfter (c : StoreCalls) : StoreCalls where
  list := c.list + 1
  head := c.head + if r.Promotes then 1 else 0
  get := c.get + if r.Fetches then 1 else 0
  copy := c.copy + if r.Copies then 1 else 0

end Calls

variable {f : Fingerprint Document} {r r' : Reloader (SharedMemory f)} {s : SharedMemory f}
  {outcome : ReloadOutcome} {p : Promotion}

structure PromotionEffect (r : Reloader (SharedMemory f)) (result : Except PromotionError Promotion)
    (s : SharedMemory f) : Prop where
  others : s.others = r.store.others
  calls : s.store.calls = { r.store.store.calls with
    list := r.store.store.calls.list + 1
    copy := r.store.store.calls.copy + if r.Copies then 1 else 0 }
  kept : MemoryStore.KeptBut r.settings.aliasKey r.store.store s.store
  settled : ∀ p, result = .ok p → ∃ b, s.store.Settled r.settings.keyPrefix r.settings.aliasKey b

lemma copies_iff {objects : List ObjectInfo} (h : r.listing = .ok objects) :
    r.Copies ↔ ∃ n, ObjectInfo.newest? objects = some n ∧ n.key ≠ r.settings.aliasKey := by
  constructor
  · rintro ⟨_, n, hlisting, hnewest, hkey⟩
    obtain rfl := Except.ok.inj (hlisting.symm.trans h)
    exact ⟨n, hnewest, hkey⟩
  · rintro ⟨n, hnewest, hkey⟩
    exact ⟨objects, n, h, hnewest, hkey⟩

lemma effect_of_list {result : Except PromotionError Promotion}
    (hcalled : SharedStore.Called (fun c => { c with list := c.list + 1 }) r.store s) (hcopies : ¬ r.Copies)
    (hsettled : ∀ p, result = .ok p → ∃ b, s.store.Settled r.settings.keyPrefix r.settings.aliasKey b) :
    r.PromotionEffect result s := by
  refine ⟨hcalled.others, ?_, .of_objects hcalled.objects, hsettled⟩
  rw [hcalled.calls, if_neg hcopies]
  rfl

lemma effect_of_copy {n : ObjectInfo} {o : StoredObject Document} {result : Except StoreError Unit}
    {s₁ : SharedMemory f} (h : s₁.OnlySwitched)
    (hcalled : SharedStore.Called (fun c => { c with list := c.list + 1 }) r.store s₁) (hcopies : r.Copies)
    (hn : r.store.store.Newest r.settings.keyPrefix n.key o) (hkey : n.key ≠ r.settings.aliasKey)
    (hcopy : (ObjectStore.copy n.key r.settings.aliasKey).run s₁ = (result, s)) :
    r.PromotionEffect ((result.mapError .store).map fun _ => ⟨n.key, true⟩) s := by
  obtain ⟨hothers, hcalls, hkept, hcopied⟩ := h.copy hcopy
  refine ⟨hothers.trans hcalled.others, ?_, ?_, ?_⟩
  · rw [hcalls, hcalled.calls, if_pos hcopies]
  · exact (MemoryStore.KeptBut.of_objects hcalled.objects).trans hkept
  · intro p hp
    obtain ⟨_, hp, -⟩ := map_eq_ok.mp hp
    obtain ⟨q, hq, hobjects⟩ := hcopied (mapError_eq_ok.mp hp)
    rw [hcalled.objects, hn.1.1] at hq
    obtain rfl := Option.some.inj hq
    exact ⟨o.content, (MemoryStore.settled_withCopy (hn.congr hcalled.objects) hkey).congr hobjects⟩

lemma promotionEffect (h : r.store.OnlySwitched) : r.PromotionEffect r.promotion.1 r.promotion.2 := by
  rw [promotion, run_promote]
  rcases hlist : (ObjectStore.list r.settings.keyPrefix).run r.store with ⟨e | objects, s₁⟩
  · refine effect_of_list (h.list hlist).1 ?_ (by rintro p ⟨⟩)
    rintro ⟨objects, n, hlisting, -⟩
    rw [listing, hlist] at hlisting
    cases hlisting
  · obtain ⟨hcalled, hobjects⟩ := h.list hlist
    obtain rfl := hobjects objects rfl
    have hcopies := copies_iff (r := r) (congrArg Prod.fst hlist)
    simp only
    cases hnewest : ObjectInfo.newest? (r.store.store.listing r.settings.keyPrefix) with
    | none => exact effect_of_list hcalled (by simp [hcopies, hnewest]) (by rintro p ⟨⟩)
    | some n =>
      obtain ⟨o, hn⟩ := MemoryStore.newest_of_newest? hnewest
      simp only [hnewest, Option.some.injEq, exists_eq_left'] at hcopies
      simp only
      by_cases hkey : n.key = r.settings.aliasKey
      · rw [if_pos hkey]
        refine effect_of_list hcalled (by simp [hcopies, hkey]) ?_
        rintro p -
        rw [hkey] at hn
        exact ⟨o.content, (MemoryStore.settled_of_newest hn).congr hcalled.objects⟩
      · rw [if_neg hkey]
        rcases hcopy : (ObjectStore.copy n.key r.settings.aliasKey).run s₁ with ⟨_ | _, s₂⟩ <;>
          exact effect_of_copy (h.congr hcalled.others) hcalled (hcopies.mpr hkey) hn hkey hcopy

lemma effect_of_promotion {result : Except PromotionError Promotion} (h : r.store.OnlySwitched)
    (hpromote : r.promotion = (result, s)) : r.PromotionEffect result s := by
  have heffect := promotionEffect h
  rwa [hpromote] at heffect

lemma promotes_iff {result : Except PromotionError Promotion} (h : r.promotion = (result, s)) :
    r.Promotes ↔ ∃ p, result = .ok p := by
  rw [Promotes, h]

lemma fetches_iff (h : r.promotion = (.ok p, s)) : r.Fetches ↔ ∃ tag,
    ((ObjectStore.head r.settings.aliasKey).run s).1 = .ok tag ∧ r.lastApplied ≠ some tag := by
  rw [Fetches, promotes_iff h, h]
  simp

lemma called_head {result : Except StoreError String} {s₁ s₂ : SharedMemory f} (h : r.store.OnlySwitched)
    (hpromote : r.promotion = (.ok p, s₁))
    (hhead : (ObjectStore.head r.settings.aliasKey).run s₁ = (result, s₂)) :
    r.PromotionEffect (.ok p) s₁ ∧ s₁.OnlySwitched ∧
      SharedStore.Called (fun c => { c with head := c.head + 1 }) s₁ s₂ := by
  have heffect := effect_of_promotion h hpromote
  have h₁ := h.congr heffect.others
  exact ⟨heffect, h₁, (h₁.head hhead).1⟩

lemma Course.callsAfter (h : r.store.OnlySwitched) (hcourse : r.Course outcome r') :
    r'.store.store.calls = r.callsAfter r.store.store.calls := by
  cases hcourse with
  | notPromoted hpromote =>
    have heffect := effect_of_promotion h hpromote
    have hp : ¬ r.Promotes := by simp [promotes_iff hpromote]
    have hf : ¬ r.Fetches := fun hf => hp hf.1
    simp only [heffect.calls, Reloader.callsAfter, if_neg hp, if_neg hf, Nat.add_zero]
  | noTag hpromote hhead =>
    obtain ⟨heffect, -, hcalled⟩ := called_head h hpromote hhead
    have hp : r.Promotes := by simp [promotes_iff hpromote]
    have hf : ¬ r.Fetches := by simp [fetches_iff hpromote, hhead]
    simp only [hcalled.calls, heffect.calls, Reloader.callsAfter, if_pos hp, if_neg hf, Nat.add_zero]
  | unchanged hpromote hhead htag =>
    obtain ⟨heffect, -, hcalled⟩ := called_head h hpromote hhead
    have hp : r.Promotes := by simp [promotes_iff hpromote]
    have hf : ¬ r.Fetches := by simp [fetches_iff hpromote, hhead, htag]
    simp only [hcalled.calls, heffect.calls, Reloader.callsAfter, if_pos hp, if_neg hf, Nat.add_zero]
  | notFetched hpromote hhead htag hget
  | rejected hpromote hhead htag hget
  | published hpromote hhead htag hget =>
    obtain ⟨heffect, h₁, hcalled⟩ := called_head h hpromote hhead
    obtain ⟨hgot, -⟩ := (h₁.congr hcalled.others).get hget
    have hp : r.Promotes := by simp [promotes_iff hpromote]
    have hf : r.Fetches := by simp [fetches_iff hpromote, hhead, htag]
    simp only [hgot.calls, hcalled.calls, heffect.calls, Reloader.callsAfter, if_pos hp, if_pos hf]

lemma Course.keptBut (h : r.store.OnlySwitched) (hcourse : r.Course outcome r') :
    MemoryStore.KeptBut r.settings.aliasKey r.store.store r'.store.store := by
  cases hcourse with
  | notPromoted hpromote =>
    exact (effect_of_promotion h hpromote).kept
  | noTag hpromote hhead | unchanged hpromote hhead =>
    obtain ⟨heffect, -, hcalled⟩ := called_head h hpromote hhead
    exact heffect.kept.trans (.of_objects hcalled.objects)
  | notFetched hpromote hhead _ hget | rejected hpromote hhead _ hget | published hpromote hhead _ hget =>
    obtain ⟨heffect, h₁, hcalled⟩ := called_head h hpromote hhead
    obtain ⟨hgot, -⟩ := (h₁.congr hcalled.others).get hget
    exact (heffect.kept.trans (.of_objects hcalled.objects)).trans (.of_objects hgot.objects)

/-- Once the document of a cycle was compared or loaded, the verdict on it stands. -/
lemma Course.standing (h : r.store.OnlySwitched) (hcourse : r.Course outcome r') :
    (∀ e, outcome = .failed (.load e) → ∃ b, r'.unshared.Standing b (.failed (.load e)) 1) ∧
    (outcome = .unchanged ∨ outcome.isPublished = true → ∃ b, r'.unshared.Standing b .unchanged 0) := by
  cases hcourse with
  | notPromoted | noTag | notFetched => exact ⟨by rintro e ⟨⟩, by simp [ReloadOutcome.isPublished]⟩
  | unchanged hpromote hhead htag =>
    obtain ⟨heffect, h₁, hcalled⟩ := called_head h hpromote hhead
    obtain ⟨b, hs⟩ := heffect.settled _ rfl
    obtain ⟨rfl, hoffline, hs₂⟩ := h₁.head_settled hs hhead
    refine ⟨by rintro e ⟨⟩, fun _ => ⟨b, hoffline, hs₂, ?_⟩⟩
    exact .inl ⟨htag, rfl, rfl⟩
  | rejected hpromote hhead htag hget hload =>
    obtain ⟨heffect, h₁, hcalled⟩ := called_head h hpromote hhead
    obtain ⟨b, hs⟩ := heffect.settled _ rfl
    obtain ⟨rfl, -, hs₂⟩ := h₁.head_settled hs hhead
    obtain ⟨rfl, hoffline, hs₃⟩ := (h₁.congr hcalled.others).get_settled hs₂ hget
    refine ⟨?_, by simp [ReloadOutcome.isPublished]⟩
    rintro _ ⟨⟩
    exact ⟨b, hoffline, hs₃, .inr ⟨htag, rfl, _, hload, rfl⟩⟩
  | published hpromote hhead htag hget hload =>
    obtain ⟨heffect, h₁, hcalled⟩ := called_head h hpromote hhead
    obtain ⟨b, hs⟩ := heffect.settled _ rfl
    obtain ⟨rfl, -, hs₂⟩ := h₁.head_settled hs hhead
    obtain ⟨rfl, hoffline, hs₃⟩ := (h₁.congr hcalled.others).get_settled hs₂ hget
    refine ⟨by rintro e ⟨⟩, fun _ => ⟨b, hoffline, hs₃, ?_⟩⟩
    exact .inl ⟨congrArg some (Document.load_versionTag hload), rfl, rfl⟩

def Repeats (r : Reloader (SharedMemory f)) (outcome : ReloadOutcome) (fetches : ℕ) : Prop :=
  ∀ n, (r.afterCycles n).cycle.1.outcome = outcome ∧
    (r.afterCycles (n + 1)).store.store.calls.get = (r.afterCycles n).store.store.calls.get + fetches

lemma Standing.repeats {b : Document} {fetches : ℕ} (h : r.unshared.Standing b outcome fetches)
    (huntouched : r.store.Untouched) : r.Repeats outcome fetches := by
  intro n
  obtain ⟨hsame, hn⟩ := unshared_afterCycles huntouched n
  obtain ⟨hcycle, hsame', -⟩ := unshared_cycle hn
  have hstanding := h.afterCycles n
  rw [← hsame] at hstanding
  obtain ⟨houtcome, hget, -⟩ := hstanding.afterCycle
  rw [afterCycles_succ, hcycle]
  rw [← hsame'] at hget
  exact ⟨houtcome, hget⟩

/-- What a cycle does to what is published, to the objects of the store and to its counters; and the cycles
after it, once others leave the store alone. One that nobody disturbs is a cycle on the store itself. -/
structure CycleEffect (r : Reloader (SharedMemory f)) : Prop where
  atomic : (∃ e, r.cycle.1.outcome = .failed e) →
    r.afterCycle.registry = r.registry ∧ r.afterCycle.lastApplied = r.lastApplied
  objects : MemoryStore.KeptBut r.settings.aliasKey r.store.store r.afterCycle.store.store
  calls : r.afterCycle.store.store.calls = r.callsAfter r.store.store.calls
  rejected : r.afterCycle.store.Untouched → ∀ e, r.cycle.1.outcome = .failed (.load e) →
    r.afterCycle.Repeats (.failed (.load e)) 1
  settled : r.afterCycle.store.Untouched →
    r.cycle.1.outcome = .unchanged ∨ r.cycle.1.outcome.isPublished = true → r.afterCycle.Repeats .unchanged 0
  alone : r.store.Untouched → r.cycle.1 = r.unshared.cycle.1 ∧ r.afterCycle.unshared = r.unshared.afterCycle

theorem cycleEffect (h : r.store.OnlySwitched) : r.CycleEffect := by
  obtain ⟨hrejected, hsettled⟩ := r.course.standing h
  constructor
  · rintro ⟨e, he⟩
    exact r.course.kept (by rw [he]; rfl)
  · exact r.course.keptBut h
  · exact r.course.callsAfter h
  · intro huntouched e he
    obtain ⟨b, hb⟩ := hrejected e he
    exact hb.repeats huntouched
  · intro huntouched hout
    obtain ⟨b, hb⟩ := hsettled hout
    exact hb.repeats huntouched
  · intro huntouched
    obtain ⟨hcycle, hafter, -⟩ := unshared_cycle huntouched
    exact ⟨hcycle, hafter⟩

def rawOrNot : Fingerprint Document where
  tag d := if d = .raw [1] then "raw" else "other"
  size _ := 1

def oneDocument (d : Document) (others : ℕ → MemoryStore rawOrNot → MemoryStore rawOrNot) :
    Reloader (SharedMemory rawOrNot) where
  settings := {}
  store := { store := MemoryStore.putAt { clock := ⟨fun n => n, 0⟩ } "rules/a" d 5, others }

/-- A document that is no workbook while the store goes offline before the sixth call, and on a store that nobody
touches that document and one that can be loaded. -/
theorem cycleEffect_oneDocument :
    let disturbed := oneDocument (.raw [1]) fun n s => s.setOffline (n == 5)
    let rejected := oneDocument (.raw [1]) fun _ => id
    let published := oneDocument (rateDocument "0.5") fun _ => id
    (disturbed.cycle.1.outcome = .failed (.load (.workbook .unknownFormat)) ∧ disturbed.CycleEffect) ∧
    (rejected.CycleEffect ∧ rejected.afterCycle.Repeats (.failed (.load (.workbook .unknownFormat))) 1) ∧
    published.cycle.1.outcome = .published "other" 1 ∧ published.CycleEffect ∧
      published.afterCycle.Repeats .unchanged 0 := by
  intro disturbed rejected published
  have huntouched : ∀ d, (oneDocument d fun _ => id).afterCycle.store.Untouched :=
    fun _ => (unshared_cycle fun _ _ _ => rfl).2.2
  have hrejected : rejected.CycleEffect := cycleEffect fun _ t => ⟨t.offline, rfl⟩
  have hpublished : published.CycleEffect := cycleEffect fun _ t => ⟨t.offline, rfl⟩
  have houtcome : published.cycle.1.outcome = .published "other" 1 := by decide +kernel
  refine ⟨⟨by decide +kernel, cycleEffect fun n _ => ⟨n == 5, rfl⟩⟩, ⟨hrejected, ?_⟩, houtcome, hpublished, ?_⟩
  · exact hrejected.rejected (huntouched _) _ (by decide +kernel)
  · exact hpublished.settled (huntouched _) (.inr (by rw [houtcome]; rfl))

end Reloader

end DiscountTables
