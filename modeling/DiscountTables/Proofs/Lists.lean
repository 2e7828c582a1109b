import Mathlib.Tactic

namespace DiscountTables

variable {α β : Type}

lemma getLast?_flatMap_eq_some_iff {f : α → List β} {l : List α} {b : β} :
    (l.flatMap f).getLast? = some b ↔
      ∃ before x after, l = before ++ x :: after ∧ (f x).getLast? = some b ∧ ∀ y ∈ after, f y = [] := by
  rw [List.getLast?_flatMap, List.findSome?_eq_some_iff]
  constructor
  · rintro ⟨after, x, before, hl, hx, hy⟩
    refine ⟨before.reverse, x, after.reverse, ?_, hx, ?_⟩
    · rw [← List.reverse_reverse l, hl]
      simp
    · intro y hmem
      exact List.getLast?_eq_none_iff.mp (hy y (List.mem_reverse.mp hmem))
  · rintro ⟨before, x, after, rfl, hx, hy⟩
    refine ⟨after.reverse, x, before.reverse, by simp, hx, ?_⟩
    intro y hmem
    exact List.getLast?_eq_none_iff.mpr (hy y (List.mem_reverse.mp hmem))

lemma getLast?_filterMap_eq_some_iff {f : α → Option β} {l : List α} {b : β} {key : α → ℕ}
    (hl : l.Pairwise fun x y => key x < key y) :
    (l.filterMap f).getLast? = some b ↔ ∃ x ∈ l, f x = some b ∧ ∀ y ∈ l, key x < key y → f y = none := by
  have hflat : l.filterMap f = l.flatMap fun x => (f x).toList := by
    induction l with
    | nil => rfl
    | cons x l ih =>
      rw [List.flatMap_cons, List.filterMap_cons, ih hl.of_cons]
      cases f x <;> rfl
  rw [hflat, getLast?_flatMap_eq_some_iff]
  constructor
  · rintro ⟨before, x, after, rfl, hx, hy⟩
    have hx : f x = some b := by
      cases h : f x with
      | none => simp [h] at hx
      | some c => simpa [h] using hx
    refine ⟨x, by simp, hx, ?_⟩
    intro y hmem hlt
    rcases List.mem_append.mp hmem with hb | ha
    · have hyx := (List.pairwise_append.mp hl).2.2 y hb x List.mem_cons_self
      omega
    · rcases List.mem_cons.mp ha with rfl | ha
      · omega
      · exact Option.toList_eq_nil_iff.mp (hy y ha)
  · rintro ⟨x, hmem, hx, hy⟩
    obtain ⟨before, after, rfl⟩ := List.append_of_mem hmem
    refine ⟨before, x, after, rfl, by simp [hx], ?_⟩
    intro y ha
    have hlt := List.rel_of_pairwise_cons (List.pairwise_append.mp hl).2.1 ha
    rw [hy y (by simp [ha]) hlt]
    rfl

end DiscountTables
