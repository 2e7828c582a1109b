import DiscountTables.Proofs.Reload.Cycle
import DiscountTables.Proofs.Store.Memory

namespace DiscountTables

namespace MemoryStore

variable {α : Type} {f : Fingerprint α}

def Stores (s : MemoryStore f) (content : α) : Prop := ∃ key, s.contents? key = some content

lemma stores_iff (s : MemoryStore f) (content : α) :
    s.Stores content ↔ ∃ key o, s.objects.get? key = some o ∧ o.content = content := by
  simp [Stores, contents?, Option.map_eq_some_iff]

lemma not_stores_new (clock : Clock) (content : α) : ¬ ({ clock } : MemoryStore f).Stores content := by
  rintro ⟨key, h⟩
  cases h

lemma Stores.congr {s t : MemoryStore f} {content : α} (h : s.Stores content) (ht : t.objects = s.objects) :
    t.Stores content := by
  rw [stores_iff] at h ⊢
  rwa [ht]

lemma stores_of_insert {s t : MemoryStore f} {key : String} {o : StoredObject α} {content : α}
    (ht : t.objects = s.objects.insert key o) (h : t.Stores content) :
    content = o.content ∨ s.Stores content := by
  rw [stores_iff] at h ⊢
  obtain ⟨k, q, hq, rfl⟩ := h
  rw [ht, FiniteMap.get?_insert] at hq
  split at hq
  · exact .inl (congrArg StoredObject.content (Option.some.inj hq).symm)
  · exact .inr ⟨k, q, hq, rfl⟩

end MemoryStore

namespace Reloader

variable {f : Fingerprint Document} {r : Reloader (MemoryStore f)}

lemma notPromoted_of_no_winner
    (h : r.store.offline = true ∨ ∀ key o, ¬ r.store.Candidate r.settings.keyPrefix key o) :
    ∃ e s₁, r.promotion = (.error e, s₁) ∧ s₁.objects = r.store.objects := by
  rw [promotion, run_promote, MemoryStore.run_list]
  cases hoffline : r.store.offline with
  | true => exact ⟨_, _, rfl, rfl⟩
  | false =>
    have hn := h.resolve_left (by simp [hoffline])
    have hnone := (r.store.newest?_listing_eq_none r.settings.keyPrefix).mpr hn
    simp only [Bool.false_eq_true, if_false, hnone]
    exact ⟨_, _, rfl, rfl⟩

lemma failed_of_no_winner
    (h : r.store.offline = true ∨ ∀ key o, ¬ r.store.Candidate r.settings.keyPrefix key o) :
    ∃ e s₁, r.cycle.1.outcome = .failed e ∧ r.afterCycle = { r with store := s₁ } ∧
      s₁.objects = r.store.objects := by
  obtain ⟨e, s₁, hpromote₁, hs₁⟩ := notPromoted_of_no_winner h
  rw [promotion] at hpromote₁
  rw [afterCycle, cycle, run_fetchIfChanged, hpromote₁]
  exact ⟨_, s₁, rfl, rfl, hs₁⟩

structure Promoted (r : Reloader (MemoryStore f)) (b : Document) (fetches : ℕ) (s : MemoryStore f) :
    Prop where
  online : s.offline = false
  settled : s.Settled r.settings.keyPrefix r.settings.aliasKey b
  stores : ∀ content, s.Stores content → r.store.Stores content
  gets : s.calls.get = r.store.calls.get + fetches

namespace Promoted

variable {b : Document} {n : ℕ} {s : MemoryStore f}

lemma find (h : r.Promoted b n s) : ∃ o, s.find r.settings.aliasKey = .ok o ∧ o.content = b := by
  obtain ⟨o, ho, hb⟩ := h.settled.aliased
  exact ⟨o, (s.find_eq_ok_iff _ _).mpr ⟨h.online, ho⟩, hb⟩

lemma counted {m : ℕ} {count : StoreCalls → StoreCalls} (h : r.Promoted b n s)
    (hcount : (count s.calls).get = s.calls.get + m) : r.Promoted b (n + m) (s.counted count) :=
  ⟨h.online, h.settled.congr rfl, fun content hc => h.stores content (hc.congr rfl),
    hcount.trans (by rw [h.gets, Nat.add_assoc])⟩

lemma head (h : r.Promoted b n s) : ∃ s',
    (ObjectStore.head r.settings.aliasKey).run s = (.ok (f.tag b), s') ∧ r.Promoted b n s' := by
  obtain ⟨o, ho, rfl⟩ := h.find
  have hrun := MemoryStore.run_head r.settings.aliasKey s
  rw [ho] at hrun
  exact ⟨_, hrun, h.counted (m := 0) rfl⟩

lemma fetch (h : r.Promoted b n s) : ∃ s',
    (ObjectStore.get r.settings.aliasKey).run s = (.ok ⟨b, f.tag b⟩, s') ∧ r.Promoted b (n + 1) s' := by
  obtain ⟨o, ho, rfl⟩ := h.find
  have hrun := MemoryStore.run_fetch r.settings.aliasKey s
  rw [ho] at hrun
  exact ⟨_, hrun, h.counted (m := 1) rfl⟩

end Promoted

lemma promotion_of_newest {key : String} {o : StoredObject Document} (h : r.store.offline = false)
    (hn : r.store.Newest r.settings.keyPrefix key o) :
    ∃ p s₁, r.promotion = (.ok p, s₁) ∧ r.Promoted o.content 0 s₁ := by
  rw [promotion, MemoryStore.run_promote_of_newest h hn]
  split
  · rename_i hkey
    refine ⟨_, _, rfl, h, ?_, fun content hc => hc.congr rfl, rfl⟩
    rw [hkey] at hn
    exact (MemoryStore.settled_of_newest hn).congr rfl
  · rename_i hkey
    refine ⟨_, _, rfl, h, ?_, ?_, rfl⟩
    · exact MemoryStore.settled_withCopy (s := r.store.listed.copied) hn hkey
    · intro content hc
      rcases MemoryStore.stores_of_insert (s := r.store) rfl hc with rfl | hc
      · exact (r.store.stores_iff _).mpr ⟨key, o, hn.1.1, rfl⟩
      · exact hc

inductive CourseTo (r : Reloader (MemoryStore f)) (b : Document) :
    ReloadOutcome → Reloader (MemoryStore f) → Prop where
  | unchanged {s} (hs : r.Promoted b 0 s) (htag : r.lastApplied = some (f.tag b)) :
    CourseTo r b .unchanged { r with store := s }
  | rejected {s e} (hs : r.Promoted b 1 s) (htag : r.lastApplied ≠ some (f.tag b))
    (hload : b.load (f.tag b) = .error e) : CourseTo r b (.failed (.load e)) { r with store := s }
  | published {s base} (hs : r.Promoted b 1 s) (htag : r.lastApplied ≠ some (f.tag b))
    (hload : b.load (f.tag b) = .ok base) :
    CourseTo r b (.published base.versionTag base.size)
      { r with store := s, registry := r.registry.publish base, lastApplied := some base.versionTag }

lemma courseTo_of_newest {key : String} {o : StoredObject Document} (h : r.store.offline = false)
    (hn : r.store.Newest r.settings.keyPrefix key o) :
    r.CourseTo o.content r.cycle.1.outcome r.afterCycle := by
  obtain ⟨p, s₁, hpromote₁, hs₁⟩ := promotion_of_newest h hn
  obtain ⟨s₂, hhead₂, hs₂⟩ := hs₁.head
  obtain ⟨s₃, hget₃, hs₃⟩ := hs₂.fetch
  rw [promotion] at hpromote₁
  rw [afterCycle, cycle, run_fetchIfChanged, hpromote₁]
  simp only [hhead₂]
  by_cases htag : r.lastApplied = some (f.tag o.content)
  · simp only [if_pos htag]
    exact .unchanged hs₂ htag
  · simp only [if_neg htag, hget₃, apply]
    cases hload : o.content.load (f.tag o.content) with
    | error e => exact .rejected hs₃ htag hload
    | ok base => exact .published hs₃ htag hload

/-- The newest candidate and the alias have been the same document since it was seen last, so that the
outcome is known. -/
structure Standing (r : Reloader (MemoryStore f)) (b : Document) (outcome : ReloadOutcome) (fetches : ℕ) :
    Prop where
  online : r.store.offline = false
  settled : r.store.Settled r.settings.keyPrefix r.settings.aliasKey b
  verdict : r.lastApplied = some (f.tag b) ∧ outcome = .unchanged ∧ fetches = 0 ∨
    r.lastApplied ≠ some (f.tag b) ∧ fetches = 1 ∧
      ∃ e, b.load (f.tag b) = .error e ∧ outcome = .failed (.load e)

lemma Standing.afterCycle {b : Document} {outcome : ReloadOutcome} {fetches : ℕ}
    (h : r.Standing b outcome fetches) : r.cycle.1.outcome = outcome ∧
      r.afterCycle.store.calls.get = r.store.calls.get + fetches ∧
      r.afterCycle.Standing b outcome fetches := by
  obtain ⟨key, o, hn, rfl⟩ := h.settled.newest
  have hcourse := courseTo_of_newest h.online hn
  have hverdict := h.verdict
  generalize r.cycle.1.outcome = outcome', r.afterCycle = r' at hcourse
  cases hcourse with
  | unchanged hs htag =>
    obtain ⟨-, rfl, rfl⟩ | ⟨hne, -⟩ := hverdict
    · exact ⟨rfl, hs.gets, hs.online, hs.settled, h.verdict⟩
    · exact absurd htag hne
  | rejected hs htag hload =>
    obtain ⟨heq, -⟩ | ⟨-, rfl, e, hload', rfl⟩ := hverdict
    · exact absurd heq htag
    · obtain rfl := Except.error.inj (hload.symm.trans hload')
      exact ⟨rfl, hs.gets, hs.online, hs.settled, h.verdict⟩
  | published hs htag hload =>
    obtain ⟨heq, -⟩ | ⟨-, -, e, hload', -⟩ := hverdict
    · exact absurd heq htag
    · rw [hload] at hload'
      cases hload'

lemma Standing.afterCycles {b : Document} {outcome : ReloadOutcome} {fetches : ℕ}
    (h : r.Standing b outcome fetches) (n : ℕ) : (r.afterCycles n).Standing b outcome fetches := by
  induction n with
  | zero => exact h
  | succ n ih =>
    rw [afterCycles_succ]
    exact ih.afterCycle.2.2

end Reloader

end DiscountTables
