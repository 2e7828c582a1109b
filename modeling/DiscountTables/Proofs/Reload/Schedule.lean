import DiscountTables.Proofs.Reload.Freshness
import DiscountTables.Proofs.Reload.Timeline

namespace DiscountTables

/-- A reloader with a loop that starts at an instant, and what happens meanwhile. Nothing happens at a tick. -/
structure Schedule (σ : Type) where
  reloader : Reloader σ
  start : ℕ
  happenings : List (ℕ × Happening σ)
  period_pos : 0 < reloader.settings.pollMillis
  ordered : happenings.Pairwise (·.1 ≤ ·.1)
  /-- Of a loop that starts cancelled it is open whether it runs its first cycle. -/
  started : ∀ c, (c, .cancel) ∈ happenings → start ≤ c
  /-- There are no ticks after a cancellation. -/
  apart : ∀ h ∈ happenings, ∀ k, h.1 = start + k * reloader.settings.pollMillis →
    ∃ c, (c, .cancel) ∈ happenings ∧ c < h.1

namespace Schedule

variable {σ : Type}

def Tick (plan : Schedule σ) (t : ℕ) : Prop :=
  (∃ k, t = plan.start + k * plan.reloader.settings.pollMillis) ∧ ∀ c, (c, .cancel) ∈ plan.happenings → t < c

def background (plan : Schedule σ) : Background σ :=
  { ({ reloader := plan.reloader, now := plan.start } : Background σ).spawn with now := 0 }

def upTo (plan : Schedule σ) (t : ℕ) : List (ℕ × Happening σ) := plan.happenings.filter (·.1 ≤ t)

lemma mem_upTo {plan : Schedule σ} {t : ℕ} {h : ℕ × Happening σ} :
    h ∈ plan.upTo t ↔ h ∈ plan.happenings ∧ h.1 ≤ t := by
  rw [upTo, List.mem_filter, decide_eq_true_iff]

lemma le_of_mem_upTo {plan : Schedule σ} {t : ℕ} : ∀ h ∈ plan.upTo t, h.1 ≤ t :=
  fun _ hmem => (mem_upTo.mp hmem).2

lemma awaits (plan : Schedule σ) (t : ℕ) :
    plan.background.Awaits { next := plan.start } (plan.upTo t) := by
  refine ⟨rfl, plan.period_pos, plan.ordered.filter _, ?_⟩
  rintro h hmem ⟨-, k, hk⟩
  obtain ⟨hmem, hle⟩ := mem_upTo.mp hmem
  obtain ⟨c, hc, hlt⟩ := plan.apart h hmem k hk
  exact ⟨c, mem_upTo.mpr ⟨hc, hlt.le.trans hle⟩, hlt⟩

variable [ObjectStore σ Document]

def reached (plan : Schedule σ) (t : ℕ) : Reloader σ := (plan.background.play (plan.upTo t) t).reloader

def log (plan : Schedule σ) (t : ℕ) : List (ℕ × ServiceStep σ) := plan.background.log (plan.upTo t) t

structure Timed (plan : Schedule σ) (until_ : ℕ) : Prop where
  cycles : ∀ t, (t, .cycle) ∈ plan.log until_ ↔ plan.Tick t ∧ t ≤ until_
  writes : (plan.log until_).filter (fun s => !s.2.isCycle) = writes (plan.upTo until_)
  ordered : (plan.log until_).Pairwise Precedes
  reached : plan.reached until_ = plan.reloader.serveAll ((plan.log until_).map Prod.snd)

variable {f : Fingerprint Document}

/-- At a tick, the newest candidate is published if it can be loaded: the latest upload at the first tick after it.
Tags stand for documents. -/
def Serves (plan : Schedule (MemoryStore f)) : Prop :=
  ∀ documents, Set.InjOn f.tag documents → plan.reloader.Traced documents →
    (∀ w change, (w, .write change) ∈ plan.happenings →
      ∀ s d, (change s).Stores d → s.Stores d ∨ d ∈ documents) →
    ∀ t, plan.Tick t → ∃ before, plan.log t = before ++ [(t, .cycle)] ∧
      let r := plan.reloader.serveAll (before.map Prod.snd)
      ∀ key o base, r.store.offline = false → r.store.Newest plan.reloader.settings.keyPrefix key o →
        o.content.load (f.tag o.content) = .ok base → (plan.reached t).registry.base? = some base

lemma timed (plan : Schedule σ) (t : ℕ) : plan.Timed t := by
  have hb := plan.awaits t
  refine ⟨fun u => ?_, hb.filter_log, hb.log_pairwise le_of_mem_upTo, plan.background.reloader_play _ t⟩
  rw [log, hb.mem_log_iff le_of_mem_upTo]
  have hcancels : u ≤ t → ((∀ c, (c, .cancel) ∈ plan.upTo t → u < c) ↔
      ∀ c, (c, .cancel) ∈ plan.happenings → u < c) := by
    intro hle
    refine ⟨fun h c hc => ?_, fun h c hc => h c (mem_upTo.mp hc).1⟩
    by_cases hct : c ≤ t
    · exact h c (mem_upTo.mpr ⟨hc, hct⟩)
    · exact hle.trans_lt (Nat.not_le.mp hct)
  have hwrite : (u, .cycle) ∉ DiscountTables.writes (plan.upTo t) := by
    rw [mem_writes_iff]
    rintro ⟨change, hcycle, -⟩
    cases hcycle
  constructor
  · intro hmem
    obtain ⟨-, ⟨-, k, hk⟩, hle, hc⟩ := hmem.resolve_right hwrite
    exact ⟨⟨⟨k, hk⟩, (hcancels hle).mp hc⟩, hle⟩
  · rintro ⟨⟨⟨k, hk⟩, hc⟩, hle⟩
    exact .inl ⟨rfl, ⟨rfl, k, hk⟩, hle, (hcancels hle).mpr hc⟩

lemma le_of_mem_log {plan : Schedule σ} {t : ℕ} {s : ℕ × ServiceStep σ} (hs : s ∈ plan.log t) : s.1 ≤ t := by
  rcases ((plan.awaits t).mem_log_iff le_of_mem_upTo).mp hs with ⟨-, -, hle, -⟩ | hs
  · exact hle
  · obtain ⟨change, -, hmem⟩ := mem_writes_iff.mp hs
    exact (mem_upTo.mp hmem).2

lemma log_of_tick {plan : Schedule σ} {t : ℕ} (ht : plan.Tick t) : ∃ before, plan.log t = before ++ [(t, .cycle)] := by
  have htimed := plan.timed t
  obtain ⟨before, after, hlog⟩ := List.append_of_mem ((htimed.cycles t).mpr ⟨ht, le_rfl⟩)
  have hafter : after = [] := by
    refine List.eq_nil_iff_forall_not_mem.mpr fun s hs => ?_
    have hle : s.1 ≤ t := le_of_mem_log (hlog ▸ List.mem_append_right _ (List.mem_cons_of_mem _ hs))
    have hordered := htimed.ordered
    rw [hlog, List.pairwise_append] at hordered
    rcases List.rel_of_pairwise_cons hordered.2.1 hs with hlt | ⟨-, hcycle, -⟩
    · exact absurd hle (Nat.not_le.mpr hlt)
    · cases hcycle
  exact ⟨before, hafter ▸ hlog⟩

end Schedule

namespace Reloader

variable {f : Fingerprint Document} {r : Reloader (MemoryStore f)} {documents : Set Document}

lemma Traced.serve (h : r.Traced documents) (step : ServiceStep (MemoryStore f))
    (hs : ∀ change, step = .write change → ∀ s d, (change s).Stores d → s.Stores d ∨ d ∈ documents) :
    (r.serve step).Traced documents := by
  cases step with
  | write change => exact ⟨fun d hd => (hs change rfl _ d hd).elim (h.stores d) id, h.applied, h.built⟩
  | cycle => exact h.afterCycle
  | lookup request => exact h

lemma Traced.serveAll (h : r.Traced documents) (steps : List (ServiceStep (MemoryStore f)))
    (hs : ∀ change, .write change ∈ steps → ∀ s d, (change s).Stores d → s.Stores d ∨ d ∈ documents) :
    (r.serveAll steps).Traced documents := by
  induction steps generalizing r with
  | nil => exact h
  | cons step rest ih =>
    refine ih (h.serve step ?_) fun change hmem => hs change (List.mem_cons_of_mem _ hmem)
    rintro change rfl
    exact hs change List.mem_cons_self

lemma Traced.base?_of_newest {key : String} {o : StoredObject Document} {base : RuleBase} (h : r.Traced documents)
    (hf : Set.InjOn f.tag documents) (honline : r.store.offline = false)
    (hn : r.store.Newest r.settings.keyPrefix key o) (hload : o.content.load (f.tag o.content) = .ok base) :
    r.afterCycle.registry.base? = some base := by
  have ho := h.stores o.content ((r.store.stores_iff _).mpr ⟨key, o, hn.1.1, rfl⟩)
  have hserves := (courseTo_of_newest honline hn).serves (h.builtFrom_iff hf ho)
  have hout : r.cycle.1.outcome = .unchanged ∨ r.cycle.1.outcome.isPublished = true := by
    by_cases hbuilt : r.BuiltFrom o.content
    · exact .inl (hserves.unchanged.mpr hbuilt)
    · exact .inr (hserves.published.mpr ⟨hbuilt, base, hload⟩)
  obtain ⟨base', hbase', hload'⟩ := (hserves.served hout).1
  rw [hbase', Except.ok.inj (hload'.symm.trans hload)]

end Reloader

namespace Schedule

lemma serves {f : Fingerprint Document} (plan : Schedule (MemoryStore f)) : plan.Serves := by
  intro documents hf hstart hwrites t ht
  obtain ⟨before, hlog⟩ := log_of_tick ht
  refine ⟨before, hlog, ?_⟩
  intro r key o base honline hn hload
  have htraced : r.Traced documents := by
    refine hstart.serveAll _ fun change hmem => ?_
    obtain ⟨⟨w, step⟩, hmem, rfl⟩ := List.mem_map.mp hmem
    have hlogged : (w, .write change) ∈ (plan.log t).filter (fun s => !s.2.isCycle) :=
      List.mem_filter.mpr ⟨hlog ▸ List.mem_append_left _ hmem, rfl⟩
    rw [(plan.timed t).writes, mem_writes_iff] at hlogged
    obtain ⟨_, ⟨⟩, hmem⟩ := hlogged
    exact hwrites w change (mem_upTo.mp hmem).1
  have hreached : plan.reached t = r.afterCycle := by
    rw [(plan.timed t).reached, hlog, List.map_append, Reloader.serveAll_append]
    rfl
  rw [hreached]
  rw [← Reloader.settings_serveAll plan.reloader (before.map Prod.snd)] at hn
  exact htraced.base?_of_newest hf honline hn hload

/-- An upload between the first two ticks, a cancellation before the third, and a write at that instant. -/
def oneUpload : Schedule (MemoryStore Reloader.rates) where
  reloader := { settings := { pollMillis := 1000 }, store := { clock := ⟨fun n => n, 0⟩ } }
  start := 5
  happenings := [(700, .write (·.putAt "rules/a.xlsx" (rateDocument "0.5") 3)), (1500, .cancel),
    (2005, .write (·.setOffline true))]
  period_pos := by decide
  ordered := by simp
  started := by
    intro c hc
    obtain rfl : c = 1500 := by simpa using hc
    decide
  apart := by
    intro h hmem k hk
    simp only [List.mem_cons, List.not_mem_nil, or_false] at hmem
    change h.1 = 5 + k * 1000 at hk
    rcases hmem with rfl | rfl | rfl
    · omega
    · omega
    · exact ⟨1500, by simp, by decide⟩

end Schedule

end DiscountTables
