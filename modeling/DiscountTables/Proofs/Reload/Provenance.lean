import DiscountTables.Proofs.Reload.Cycle
import DiscountTables.Proofs.Store.Shared

namespace DiscountTables

namespace Reloader

variable {σ : Type} [ObjectStore σ Document] {r r' : Reloader (SharedStore σ Document)}
  {outcome : ReloadOutcome}

def answers (r : Reloader (SharedStore σ Document)) : List (Answer Document) :=
  r.afterCycle.store.answers.drop r.store.answers.length

def Publishes (r : Reloader σ) : Prop := r.cycle.1.outcome.isPublished = true

lemma answers_promotion {p : Promotion} {s : SharedStore σ Document} (h : r.promotion = (.ok p, s)) :
    ∃ calls, s.answers = r.store.answers ++ calls ∧ calls.filterMap Answer.tag? = [] ∧
      calls.filterMap Answer.document? = [] := by
  rw [promotion, run_promote] at h
  rcases hlist : (ObjectStore.list r.settings.keyPrefix).run r.store with ⟨_ | objects, s₁⟩
  · simp only [hlist] at h
    cases h
  · have hs₁ := SharedStore.answers_call hlist
    simp only [hlist] at h
    cases hnewest : ObjectInfo.newest? objects with
    | none =>
      simp only [hnewest] at h
      cases h
    | some n =>
      simp only [hnewest] at h
      split at h
      · obtain ⟨-, rfl⟩ := Prod.mk.inj h
        exact ⟨_, hs₁, rfl, rfl⟩
      · rcases hcopy : (ObjectStore.copy n.key r.settings.aliasKey).run s₁ with ⟨_ | _, s₂⟩
        · simp only [hcopy] at h
          cases h
        · have hs₂ := SharedStore.answers_call hcopy
          simp only [hcopy] at h
          obtain ⟨-, rfl⟩ := Prod.mk.inj h
          rw [hs₁, List.append_assoc] at hs₂
          exact ⟨_, hs₂, rfl, rfl⟩

lemma Course.answers (h : r.Course outcome r') :
    (outcome = .unchanged → ∃ tag, r.lastApplied = some tag ∧
      (r'.store.answers.drop r.store.answers.length).filterMap Answer.tag? = [tag]) ∧
    (outcome.isPublished = true → ∃ document base,
      (r'.store.answers.drop r.store.answers.length).filterMap Answer.document? = [document] ∧
      document.content.load document.versionTag = .ok base ∧ r'.registry.base? = some base ∧
      r'.lastApplied = some base.versionTag) := by
  cases h with
  | unchanged hpromote hhead htag =>
    obtain ⟨calls, hcalls, htags, -⟩ := answers_promotion hpromote
    have hs₂ := SharedStore.answers_call hhead
    refine ⟨fun _ => ⟨_, htag, ?_⟩, by rintro ⟨⟩⟩
    simp only [hs₂, hcalls, List.append_assoc, List.drop_left, List.filterMap_append, htags]
    rfl
  | published hpromote hhead htag hget hload =>
    obtain ⟨calls, hcalls, -, hdocuments⟩ := answers_promotion hpromote
    have hs₂ := SharedStore.answers_call hhead
    have hs₃ := SharedStore.answers_call hget
    refine ⟨by rintro ⟨⟩, fun _ => ⟨_, _, ?_, hload, rfl, rfl⟩⟩
    simp only [hs₃, hs₂, hcalls, List.append_assoc, List.drop_left, List.filterMap_append, hdocuments]
    rfl
  | _ => exact ⟨by rintro ⟨⟩, by rintro ⟨⟩⟩

/-- What is published after a number of cycles goes back to the latest cycle that published, and a cycle
that finds nothing changed has seen the tag of what is published. -/
structure Traceable (start : Reloader (SharedStore σ Document)) (n : ℕ) : Prop where
  applied : (start.afterCycles n).lastApplied = (start.afterCycles n).registry.versionTag?
  nothing : (start.afterCycles n).lastApplied = none ↔ ∀ m < n, ¬ (start.afterCycles m).Publishes
  latest : ∀ m < n, (start.afterCycles m).Publishes →
    (∀ k, m < k → k < n → ¬ (start.afterCycles k).Publishes) → ∃ document base,
      (start.afterCycles m).answers.filterMap Answer.document? = [document] ∧
      document.content.load document.versionTag = .ok base ∧
      (start.afterCycles n).registry.base? = some base ∧
      (start.afterCycles n).lastApplied = some base.versionTag
  unchanged : (start.afterCycles n).cycle.1.outcome = .unchanged → ∃ tag base,
    (start.afterCycles n).answers.filterMap Answer.tag? = [tag] ∧
    (start.afterCycles n).registry.base? = some base ∧ base.versionTag = tag

lemma unchanged_of_applied (h : r.lastApplied = r.registry.versionTag?)
    (hout : r.cycle.1.outcome = .unchanged) : ∃ tag base,
      r.answers.filterMap Answer.tag? = [tag] ∧ r.registry.base? = some base ∧ base.versionTag = tag := by
  obtain ⟨tag, htag, hanswers⟩ := r.course.answers.1 hout
  rw [htag, Registry.versionTag?, eq_comm, Option.map_eq_some_iff] at h
  obtain ⟨base, hbase, rfl⟩ := h
  exact ⟨_, base, hanswers, hbase, rfl⟩

lemma Traceable.succ {start : Reloader (SharedStore σ Document)} {n : ℕ} (h : start.Traceable n) :
    start.Traceable (n + 1) := by
  have hsucc := start.afterCycles_succ n
  by_cases hp : (start.afterCycles n).Publishes
  · obtain ⟨document, base, hanswers, hload, hbase, hlast⟩ := (start.afterCycles n).course.answers.2 hp
    rw [← hsucc] at hbase hlast
    have happlied : (start.afterCycles (n + 1)).lastApplied =
        (start.afterCycles (n + 1)).registry.versionTag? := by
      rw [hlast, Registry.versionTag?, hbase, Option.map_some]
    refine ⟨happlied, ?_, ?_, unchanged_of_applied happlied⟩
    · rw [hlast]
      exact ⟨by simp, fun hnone => absurd hp (hnone n n.lt_succ_self)⟩
    · intro m hm hpm hafter
      obtain rfl : m = n := by
        by_contra hne
        exact hafter n (by omega) n.lt_succ_self hp
      exact ⟨document, base, hanswers, hload, hbase, hlast⟩
  · obtain ⟨hregistry, hlast⟩ := (start.afterCycles n).course.kept (by simpa [Publishes] using hp)
    rw [← hsucc] at hregistry hlast
    have happlied : (start.afterCycles (n + 1)).lastApplied =
        (start.afterCycles (n + 1)).registry.versionTag? := by
      rw [hlast, hregistry, h.applied]
    refine ⟨happlied, ?_, ?_, unchanged_of_applied happlied⟩
    · rw [hlast, h.nothing, Nat.forall_lt_succ_right]
      exact (and_iff_left hp).symm
    · intro m hm hpm hafter
      have hmn : m ≠ n := by
        rintro rfl
        exact hp hpm
      rw [hregistry, hlast]
      exact h.latest m (by omega) hpm fun k hmk hkn => hafter k hmk (by omega)

/-- Others may do anything to the store before each call. -/
theorem traceable (settings : Settings) (store : SharedStore σ Document) (n : ℕ) :
    Traceable { settings, store } n := by
  induction n with
  | zero =>
    refine ⟨rfl, ⟨fun _ m hm => absurd hm m.not_lt_zero, fun _ => rfl⟩, ?_, unchanged_of_applied rfl⟩
    intro m hm
    exact absurd hm m.not_lt_zero
  | succ n ih => exact ih.succ

end Reloader

end DiscountTables
