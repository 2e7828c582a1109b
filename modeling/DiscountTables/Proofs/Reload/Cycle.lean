import DiscountTables.Proofs.Loading
import DiscountTables.Proofs.Promotion
import DiscountTables.Reload.Basic
import Mathlib.Tactic

namespace DiscountTables

variable {σ : Type} [ObjectStore σ Document]

lemma run_fetchIfChanged (settings : Settings) (lastApplied : Option String) (s : σ) :
    (fetchIfChanged settings lastApplied).run s =
      match (promote settings.keyPrefix settings.aliasKey).run s with
      | (.error e, s₁) => (.error (.promotion e), s₁)
      | (.ok _, s₁) => match (ObjectStore.head settings.aliasKey).run s₁ with
        | (.error e, s₂) => (.error (.store e), s₂)
        | (.ok tag, s₂) =>
          if lastApplied = some tag then (.ok none, s₂)
          else match (ObjectStore.get settings.aliasKey).run s₂ with
            | (.error e, s₃) => (.error (.store e), s₃)
            | (.ok document, s₃) => (.ok (some document), s₃) := by
  rw [fetchIfChanged, run_bind, run_adapt]
  rcases (promote settings.keyPrefix settings.aliasKey).run s with ⟨_ | _, s₁⟩
  · rfl
  · simp only [mapError_ok, run_bind, run_adapt]
    rcases (ObjectStore.head settings.aliasKey).run s₁ with ⟨_ | tag, s₂⟩
    · rfl
    · simp only [mapError_ok]
      split
      · rfl
      · simp only [run_bind, run_adapt]
        rcases (ObjectStore.get settings.aliasKey).run s₂ with ⟨_ | document, s₃⟩ <;> rfl

namespace Reloader

def afterCycles (r : Reloader σ) (n : ℕ) : Reloader σ := afterCycle^[n] r

lemma afterCycles_succ (r : Reloader σ) (n : ℕ) : r.afterCycles (n + 1) = (r.afterCycles n).afterCycle :=
  Function.iterate_succ_apply' afterCycle n r

def promotion (r : Reloader σ) : Except PromotionError Promotion × σ :=
  (promote r.settings.keyPrefix r.settings.aliasKey).run r.store

inductive Course (r : Reloader σ) : ReloadOutcome → Reloader σ → Prop where
  | notPromoted {e s₁} (hpromote : r.promotion = (.error e, s₁)) :
    Course r (.failed (.promotion e)) { r with store := s₁ }
  | noTag {p s₁ e s₂} (hpromote : r.promotion = (.ok p, s₁))
    (hhead : (ObjectStore.head r.settings.aliasKey).run s₁ = (.error e, s₂)) :
    Course r (.failed (.store e)) { r with store := s₂ }
  | unchanged {p s₁ tag s₂} (hpromote : r.promotion = (.ok p, s₁))
    (hhead : (ObjectStore.head r.settings.aliasKey).run s₁ = (.ok tag, s₂))
    (htag : r.lastApplied = some tag) : Course r .unchanged { r with store := s₂ }
  | notFetched {p s₁ tag s₂ e s₃} (hpromote : r.promotion = (.ok p, s₁))
    (hhead : (ObjectStore.head r.settings.aliasKey).run s₁ = (.ok tag, s₂))
    (htag : r.lastApplied ≠ some tag)
    (hget : (ObjectStore.get r.settings.aliasKey).run s₂ = (.error e, s₃)) :
    Course r (.failed (.store e)) { r with store := s₃ }
  | rejected {p s₁ tag s₂ document s₃ e} (hpromote : r.promotion = (.ok p, s₁))
    (hhead : (ObjectStore.head r.settings.aliasKey).run s₁ = (.ok tag, s₂))
    (htag : r.lastApplied ≠ some tag)
    (hget : (ObjectStore.get r.settings.aliasKey).run s₂ = (.ok document, s₃))
    (hload : document.content.load document.versionTag = .error e) :
    Course r (.failed (.load e)) { r with store := s₃ }
  | published {p s₁ tag s₂ document s₃ base} (hpromote : r.promotion = (.ok p, s₁))
    (hhead : (ObjectStore.head r.settings.aliasKey).run s₁ = (.ok tag, s₂))
    (htag : r.lastApplied ≠ some tag)
    (hget : (ObjectStore.get r.settings.aliasKey).run s₂ = (.ok document, s₃))
    (hload : document.content.load document.versionTag = .ok base) :
    Course r (.published base.versionTag base.size)
      { r with store := s₃, registry := r.registry.publish base, lastApplied := some base.versionTag }

lemma course (r : Reloader σ) : r.Course r.cycle.1.outcome r.afterCycle := by
  rw [afterCycle, cycle, run_fetchIfChanged]
  rcases hpromote : (promote r.settings.keyPrefix r.settings.aliasKey).run r.store with ⟨_ | p, s₁⟩
  · exact .notPromoted hpromote
  · simp only
    rcases hhead : (ObjectStore.head r.settings.aliasKey).run s₁ with ⟨_ | tag, s₂⟩
    · exact .noTag hpromote hhead
    · simp only
      by_cases htag : r.lastApplied = some tag
      · simp only [if_pos htag]
        exact .unchanged hpromote hhead htag
      · simp only [if_neg htag]
        rcases hget : (ObjectStore.get r.settings.aliasKey).run s₂ with ⟨_ | document, s₃⟩
        · exact .notFetched hpromote hhead htag hget
        · simp only [apply]
          cases hload : document.content.load document.versionTag with
          | error e => exact .rejected hpromote hhead htag hget hload
          | ok base => exact .published hpromote hhead htag hget hload

variable {r r' : Reloader σ} {outcome : ReloadOutcome}

lemma Course.settings (h : r.Course outcome r') : r'.settings = r.settings := by
  cases h <;> rfl

lemma Course.kept (h : r.Course outcome r') (hp : outcome.isPublished = false) :
    r'.registry = r.registry ∧ r'.lastApplied = r.lastApplied := by
  cases h with
  | published => cases hp
  | _ => exact ⟨rfl, rfl⟩

end Reloader

end DiscountTables
