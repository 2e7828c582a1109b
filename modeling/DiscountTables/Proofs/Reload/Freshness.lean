import DiscountTables.Proofs.Reload.Memory
import Mathlib.Data.Set.Function

namespace DiscountTables

inductive RunStep where
  | putAt (key : String) (content : Document) (modified : Calendar.Instant)
  | setOffline (offline : Bool)
  | cycle

def RunStep.upload? : RunStep → Option Document
  | putAt _ content _ => some content
  | _ => none

namespace Reloader

variable {f : Fingerprint Document}

def step (r : Reloader (MemoryStore f)) : RunStep → Reloader (MemoryStore f)
  | .putAt key content modified => { r with store := r.store.putAt key content modified }
  | .setOffline offline => { r with store := r.store.setOffline offline }
  | .cycle => r.afterCycle

def run (r : Reloader (MemoryStore f)) (steps : List RunStep) : Reloader (MemoryStore f) :=
  steps.foldl step r

def BuiltFrom (r : Reloader (MemoryStore f)) (b : Document) : Prop :=
  ∃ base, r.registry.base? = some base ∧ b.load (f.tag b) = .ok base

structure Serves (r : Reloader (MemoryStore f)) (b : Document) (outcome : ReloadOutcome)
    (r' : Reloader (MemoryStore f)) : Prop where
  unchanged : outcome = .unchanged ↔ r.BuiltFrom b
  published : outcome.isPublished = true ↔ ¬ r.BuiltFrom b ∧ ∃ base, b.load (f.tag b) = .ok base
  failed : (∃ e, outcome = .failed e) ↔ ¬ r.BuiltFrom b ∧ ∃ e, b.load (f.tag b) = .error e
  served : outcome = .unchanged ∨ outcome.isPublished = true →
    r'.BuiltFrom b ∧ r'.store.contents? r.settings.aliasKey = some b

structure Fresh (r : Reloader (MemoryStore f)) : Prop where
  failed : (r.store.offline = true ∨ ∀ key o, ¬ r.store.Candidate r.settings.keyPrefix key o) →
    ∃ e, r.cycle.1.outcome = .failed e
  newest : (∃ key o, r.store.Candidate r.settings.keyPrefix key o) →
    ∃ key o, r.store.Newest r.settings.keyPrefix key o
  serves : r.store.offline = false → ∀ key o, r.store.Newest r.settings.keyPrefix key o →
    r.Serves o.content r.cycle.1.outcome r.afterCycle

/-- The tag that was applied last is that of the published rule base, which was loaded from one of the
documents. -/
structure Traced (documents : Set Document) (r : Reloader (MemoryStore f)) : Prop where
  stores : ∀ d, r.store.Stores d → d ∈ documents
  applied : r.lastApplied = r.registry.versionTag?
  built : ∀ base, r.registry.base? = some base → ∃ d ∈ documents, d.load (f.tag d) = .ok base

variable {documents : Set Document} {r : Reloader (MemoryStore f)}

lemma BuiltFrom.lastApplied_eq {b : Document} (h : r.Traced documents) (hb : r.BuiltFrom b) :
    r.lastApplied = some (f.tag b) := by
  obtain ⟨base, hbase, hload⟩ := hb
  rw [h.applied, Registry.versionTag?, hbase, Option.map_some, Document.load_versionTag hload]

lemma Traced.builtFrom_iff {b : Document} (h : r.Traced documents) (hf : Set.InjOn f.tag documents)
    (hb : b ∈ documents) : r.BuiltFrom b ↔ r.lastApplied = some (f.tag b) := by
  refine ⟨fun hbuilt => hbuilt.lastApplied_eq h, ?_⟩
  intro htag
  rw [h.applied, Registry.versionTag?, Option.map_eq_some_iff] at htag
  obtain ⟨base, hbase, htag⟩ := htag
  obtain ⟨d, hd, hload⟩ := h.built base hbase
  have hd' : d = b := hf hd hb ((Document.load_versionTag hload).symm.trans htag)
  exact ⟨base, hbase, hd' ▸ hload⟩

lemma Traced.afterCycle (h : r.Traced documents) : r.afterCycle.Traced documents := by
  by_cases hwinner : r.store.offline = true ∨ ∀ key o, ¬ r.store.Candidate r.settings.keyPrefix key o
  · obtain ⟨e, s₁, -, hafter, hobjects⟩ := failed_of_no_winner hwinner
    rw [hafter]
    exact ⟨fun d hd => h.stores d (hd.congr hobjects.symm), h.applied, h.built⟩
  · push Not at hwinner
    obtain ⟨hoffline, key, o, hc⟩ := hwinner
    obtain ⟨k, q, hn⟩ := MemoryStore.exists_newest hc
    have hq : q.content ∈ documents := h.stores _ ((r.store.stores_iff _).mpr ⟨k, q, hn.1.1, rfl⟩)
    have hcourse := courseTo_of_newest (by simpa using hoffline) hn
    generalize r.cycle.1.outcome = outcome, r.afterCycle = r' at hcourse
    cases hcourse with
    | unchanged hs => exact ⟨fun d hd => h.stores d (hs.stores d hd), h.applied, h.built⟩
    | rejected hs => exact ⟨fun d hd => h.stores d (hs.stores d hd), h.applied, h.built⟩
    | published hs htag hload =>
      refine ⟨fun d hd => h.stores d (hs.stores d hd), rfl, ?_⟩
      intro base hbase
      obtain rfl := Option.some.inj hbase
      exact ⟨q.content, hq, hload⟩

lemma Traced.step (h : r.Traced documents) (s : RunStep) (hs : ∀ d, s.upload? = some d → d ∈ documents) :
    (r.step s).Traced documents := by
  cases s with
  | putAt key content modified =>
    refine ⟨?_, h.applied, h.built⟩
    intro d hd
    rcases MemoryStore.stores_of_insert (s := r.store) rfl hd with rfl | hd
    · exact hs _ rfl
    · exact h.stores d hd
  | setOffline offline => exact ⟨fun d hd => h.stores d (hd.congr rfl), h.applied, h.built⟩
  | cycle => exact h.afterCycle

lemma Traced.run (h : r.Traced documents) (steps : List RunStep)
    (hs : ∀ s ∈ steps, ∀ d, s.upload? = some d → d ∈ documents) : (r.run steps).Traced documents := by
  induction steps generalizing r with
  | nil => exact h
  | cons s rest ih =>
    obtain ⟨hfirst, hrest⟩ := List.forall_mem_cons.mp hs
    exact ih (h.step s hfirst) hrest

lemma Promoted.contents? {b : Document} {n : ℕ} {s : MemoryStore f} (h : r.Promoted b n s) :
    s.contents? r.settings.aliasKey = some b := by
  obtain ⟨o, ho, hb⟩ := h.settled.aliased
  rw [MemoryStore.contents?, ho, Option.map_some, hb]

lemma CourseTo.serves {b : Document} {outcome : ReloadOutcome} {r' : Reloader (MemoryStore f)}
    (h : r.CourseTo b outcome r') (hbuilt : r.BuiltFrom b ↔ r.lastApplied = some (f.tag b)) :
    r.Serves b outcome r' := by
  cases h with
  | unchanged hs htag =>
    have hb := hbuilt.mpr htag
    refine ⟨by simp [hb], by simp [hb, ReloadOutcome.isPublished], by simp [hb], ?_⟩
    intro _
    exact ⟨hb, hs.contents?⟩
  | rejected hs htag hload =>
    have hb := mt hbuilt.mp htag
    refine ⟨by simp [hb], by simp [hload, ReloadOutcome.isPublished], by simp [hb, hload], ?_⟩
    rintro (hout | hout) <;> cases hout
  | published hs htag hload =>
    have hb := mt hbuilt.mp htag
    refine ⟨by simp [hb], by simp [hb, hload, ReloadOutcome.isPublished], by simp [hload], ?_⟩
    intro _
    exact ⟨⟨_, rfl, hload⟩, hs.contents?⟩

lemma settings_run (r : Reloader (MemoryStore f)) (steps : List RunStep) :
    (r.run steps).settings = r.settings := by
  induction steps generalizing r with
  | nil => rfl
  | cons s rest ih =>
    refine (ih (r.step s)).trans ?_
    cases s with
    | cycle => exact r.course.settings
    | _ => rfl

/-- Whatever was stored, with whichever times and clock readings, and however often the store was offline,
a cycle serves the newest candidate. -/
theorem fresh_run (settings : Settings) (store : MemoryStore f) (steps : List RunStep)
    (hf : Set.InjOn f.tag {d | store.Stores d ∨ ∃ s ∈ steps, s.upload? = some d}) :
    (run { settings, store } steps).settings = settings ∧ (run { settings, store } steps).Fresh := by
  refine ⟨settings_run _ steps, ?_⟩
  have hstart : Traced {d | store.Stores d ∨ ∃ s ∈ steps, s.upload? = some d}
      ({ settings, store } : Reloader (MemoryStore f)) := by
    refine ⟨fun d hd => .inl hd, rfl, ?_⟩
    rintro base ⟨⟩
  have h := hstart.run steps fun s hs d hd => .inr ⟨s, hs, hd⟩
  generalize run { settings, store } steps = r at h
  constructor
  · intro hwinner
    obtain ⟨e, _, hfailed, -⟩ := failed_of_no_winner hwinner
    exact ⟨e, hfailed⟩
  · rintro ⟨key, o, hc⟩
    exact MemoryStore.exists_newest hc
  · intro hoffline key o hn
    have ho := h.stores o.content ((r.store.stores_iff _).mpr ⟨key, o, hn.1.1, rfl⟩)
    exact (courseTo_of_newest hoffline hn).serves (h.builtFrom_iff hf ho)

def rates : Fingerprint Document where
  tag
    | .spreadsheet s => ((s.sheets.flatMap (·.cells)).getLast?.map (·.value)).getD ""
    | .raw _ => ""
  size _ := 1

def emptyReloader : Reloader (MemoryStore rates) where
  settings := {}
  store := { clock := ⟨fun n => -n, 0⟩ }

def firstUpload : RunStep := .putAt "rules/a" (rateDocument "0.5") 5

def secondUpload : RunStep := .putAt "rules/loyalty-discount-rules-latest.xlsx" (rateDocument "0.7") 5

def twoUploads : List RunStep := [firstUpload, .cycle, secondUpload]

/-- Two documents of one time, the second after a cycle has published the first; the next cycle publishes it. -/
theorem fresh_two_uploads :
    (emptyReloader.run twoUploads).Fresh ∧
    (emptyReloader.run twoUploads).registry.versionTag? = some "0.5" ∧
    (emptyReloader.run twoUploads).cycle.1.outcome.isPublished = true ∧
    (emptyReloader.run twoUploads).afterCycle.BuiltFrom (rateDocument "0.7") := by
  have hfresh : (emptyReloader.run twoUploads).Fresh := by
    refine (fresh_run {} emptyReloader.store twoUploads ?_).2
    simp only [emptyReloader, MemoryStore.not_stores_new, false_or]
    rintro _ ⟨s, hs, hd⟩ _ ⟨t, ht, hd'⟩ htag
    simp only [twoUploads, List.mem_cons, List.not_mem_nil, or_false] at hs ht
    rcases hs with rfl | rfl | rfl <;> rcases ht with rfl | rfl | rfl <;> cases hd <;> cases hd' <;>
      first
      | rfl
      | exact absurd htag (by decide +kernel)
  have hfirst : (emptyReloader.run twoUploads).registry.versionTag? = some "0.5" := by decide +kernel
  have hnewest : (emptyReloader.run twoUploads).store.Newest (emptyReloader.run twoUploads).settings.keyPrefix
      "rules/loyalty-discount-rules-latest.xlsx" ⟨rateDocument "0.7", 5⟩ :=
    MemoryStore.newest_of_entries ⟨by decide +kernel, by decide +kernel⟩ (by decide +kernel)
  have hserves := hfresh.serves (by decide +kernel) _ _ hnewest
  have hbuilt : ¬ (emptyReloader.run twoUploads).BuiltFrom (rateDocument "0.7") := by
    rintro ⟨base, hbase, hload⟩
    rw [Registry.versionTag?, hbase, Option.map_some, Document.load_versionTag hload] at hfirst
    exact absurd hfirst (by decide +kernel)
  have hload : ∃ base, (rateDocument "0.7").load "0.7" = .ok base := isSome_toOption_iff.mp (by decide +kernel)
  have hpublished := hserves.published.mpr ⟨hbuilt, hload⟩
  exact ⟨hfresh, hfirst, hpublished, (hserves.served (.inr hpublished)).1⟩

end Reloader

end DiscountTables
