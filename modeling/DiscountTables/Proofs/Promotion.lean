import DiscountTables.Promotion
import DiscountTables.Proofs.Results
import DiscountTables.Proofs.Store.Action
import Mathlib.Data.Prod.Lex
import Mathlib.Data.String.Basic
import Mathlib.Tactic

namespace DiscountTables

namespace ObjectInfo

def rank (o : ObjectInfo) : ℤ ×ₗ String := toLex (o.modified, o.key)

lemma older_iff (a b : ObjectInfo) : a.older b = true ↔ a.rank < b.rank := by
  simp [older, rank, Prod.Lex.toLex_lt_toLex]

lemma rank_newer (a b : ObjectInfo) : (a.newer b).rank = max a.rank b.rank := by
  rw [newer]
  split
  · rename_i h
    exact (max_eq_right ((older_iff a b).mp h).le).symm
  · rename_i h
    exact (max_eq_left (not_lt.mp fun hlt => h ((older_iff a b).mpr hlt))).symm

lemma foldl_newer (rest : List ObjectInfo) (o : ObjectInfo) :
    rest.foldl newer o ∈ o :: rest ∧ ∀ p ∈ o :: rest, p.rank ≤ (rest.foldl newer o).rank := by
  induction rest generalizing o with
  | nil => simp
  | cons p rest ih =>
    obtain ⟨hmem, hmax⟩ := ih (o.newer p)
    rw [List.foldl_cons]
    obtain ⟨hfirst, hrest⟩ := List.forall_mem_cons.mp hmax
    rw [rank_newer, max_le_iff] at hfirst
    constructor
    · rcases List.mem_cons.mp hmem with heq | hmem
      · rw [heq, newer]
        split <;> simp
      · exact List.mem_cons_of_mem _ (List.mem_cons_of_mem _ hmem)
    · simp only [List.forall_mem_cons]
      exact ⟨hfirst.1, hfirst.2, hrest⟩

lemma newest?_eq_none_iff (objects : List ObjectInfo) : newest? objects = none ↔ objects = [] := by
  cases objects <;> simp [newest?]

lemma newest?_spec {objects : List ObjectInfo} {n : ObjectInfo} (h : newest? objects = some n) :
    n ∈ objects ∧ ∀ o ∈ objects, o.rank ≤ n.rank := by
  cases objects with
  | nil => cases h
  | cons o rest =>
    obtain rfl := Option.some.inj h
    exact foldl_newer rest o

end ObjectInfo

lemma run_promote {σ α : Type} [ObjectStore σ α] (keyPrefix aliasKey : String) (s : σ) :
    (promote keyPrefix aliasKey).run s = match (ObjectStore.list keyPrefix).run s with
      | (.error e, s₁) => (.error (.store e), s₁)
      | (.ok objects, s₁) => match ObjectInfo.newest? objects with
        | none => (.error (.noCandidates keyPrefix), s₁)
        | some newest =>
          if newest.key = aliasKey then (.ok ⟨newest.key, false⟩, s₁)
          else match (ObjectStore.copy newest.key aliasKey).run s₁ with
            | (.error e, s₂) => (.error (.store e), s₂)
            | (.ok (), s₂) => (.ok ⟨newest.key, true⟩, s₂) := by
  rw [promote, run_bind, run_adapt]
  rcases (ObjectStore.list keyPrefix).run s with ⟨_ | objects, s₁⟩
  · rfl
  · simp only [mapError_ok]
    cases ObjectInfo.newest? objects with
    | none => rfl
    | some newest =>
      simp only
      split
      · rfl
      · rw [run_bind, run_adapt]
        rcases (ObjectStore.copy newest.key aliasKey).run s₁ with ⟨_ | _, s₂⟩ <;> rfl

end DiscountTables
