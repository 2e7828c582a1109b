import Mathlib.Data.Prod.Lex
import Mathlib.Tactic

namespace DiscountTables

/-- `l` holds one entry for every place that has one, in the order of the places. -/
def Enumerates {α β : Type} [LinearOrder α] (At : α → β → Prop) (l : List β) : Prop :=
  ∃ places : List α, places.Pairwise (· < ·) ∧ (∀ p, p ∈ places ↔ ∃ b, At p b) ∧ List.Forall₂ At places l

def LastEntry {α β : Type} [LinearOrder α] (At : α → β → Prop) (b : β) : Prop :=
  ∃ p, At p b ∧ ∀ q c, At q c → q ≤ p

variable {α α' β γ : Type} [LinearOrder α] [LinearOrder α'] {At : α → β → Prop} {l m : List β}

namespace Enumerates

lemma unique (hone : ∀ p b c, At p b → At p c → b = c) (hl : Enumerates At l) (hm : Enumerates At m) : l = m := by
  obtain ⟨ps, hps, hmem, hl⟩ := hl
  obtain ⟨qs, hqs, hmem', hm⟩ := hm
  obtain rfl := hps.eq_of_mem_iff hqs fun p => (hmem p).trans (hmem' p).symm
  exact List.right_unique_forall₂' (fun p b c => hone p b c) hl hm

lemma eq_nil_iff (h : Enumerates At l) : l = [] ↔ ∀ p b, ¬ At p b := by
  obtain ⟨places, -, hmem, hall⟩ := h
  constructor
  · rintro rfl p b hb
    obtain rfl := List.forall₂_nil_right_iff.mp hall
    exact List.not_mem_nil ((hmem p).mpr ⟨b, hb⟩)
  · intro hnone
    cases hall with
    | nil => rfl
    | cons hb _ => exact absurd hb (hnone _ _)

lemma getLast?_eq_some_iff (h : Enumerates At l) (hone : ∀ p b c, At p b → At p c → b = c) (b : β) :
    l.getLast? = some b ↔ LastEntry At b := by
  obtain ⟨places, hsorted, hmem, hall⟩ := h
  rw [← List.forall₂_reverse_iff] at hall
  rw [← List.pairwise_reverse] at hsorted
  rw [List.getLast?_eq_head?_reverse]
  generalize l.reverse = entries at hall
  have hmem : ∀ p, p ∈ places.reverse ↔ ∃ b, At p b := fun p => List.mem_reverse.trans (hmem p)
  generalize places.reverse = ps at hall hsorted hmem
  cases hall with
  | nil =>
    constructor
    · intro hb
      cases hb
    · rintro ⟨p, hp, -⟩
      exact absurd ((hmem p).mpr ⟨b, hp⟩) List.not_mem_nil
  | @cons last c _ _ hc _ =>
    have hgreatest : ∀ q d, At q d → q ≤ last := by
      intro q d hq
      rcases List.mem_cons.mp ((hmem q).mpr ⟨d, hq⟩) with rfl | hrest
      · exact le_rfl
      · exact (List.rel_of_pairwise_cons hsorted hrest).le
    constructor
    · rintro ⟨⟩
      exact ⟨last, hc, hgreatest⟩
    · rintro ⟨p, hp, hle⟩
      obtain rfl := le_antisymm (hgreatest p b hp) (hle last c hc)
      rw [hone p b c hp hc]
      rfl

end Enumerates

lemma enumerates_filterMap (key : γ → α) {items : List γ} {value? : γ → Option β}
    (hs : items.Pairwise fun x y => key x < key y)
    (hat : ∀ p b, At p b ↔ ∃ x ∈ items, key x = p ∧ value? x = some b) : Enumerates At (items.filterMap value?) := by
  refine ⟨(items.filter fun x => (value? x).isSome).map key, ?_, ?_, ?_⟩
  · exact List.pairwise_map.mpr (hs.filter _)
  · intro p
    simp only [hat, List.mem_map, List.mem_filter, Option.isSome_iff_exists]
    constructor
    · rintro ⟨x, ⟨hx, b, hb⟩, hk⟩
      exact ⟨b, x, hx, hk, hb⟩
    · rintro ⟨b, x, hx, hk, hb⟩
      exact ⟨x, ⟨hx, b, hb⟩, hk⟩
  · have hone : ∀ x ∈ items, ∀ b, value? x = some b → At (key x) b :=
      fun x hx b hb => (hat _ _).mpr ⟨x, hx, rfl, hb⟩
    clear hs hat
    induction items with
    | nil => exact .nil
    | cons x items ih =>
      obtain ⟨hx, hitems⟩ := List.forall_mem_cons.mp hone
      cases hb : value? x with
      | none => simpa [hb] using ih hitems
      | some b =>
        rw [List.filter_cons_of_pos (by simp [hb]), List.filterMap_cons_some hb]
        exact .cons (hx b hb) (ih hitems)

lemma enumerates_flatMap {Within : γ → α' → β → Prop} {At : α ×ₗ α' → β → Prop} (key : γ → α) {items : List γ}
    {entries : γ → List β} (hs : items.Pairwise fun x y => key x < key y)
    (hin : ∀ x ∈ items, Enumerates (Within x) (entries x))
    (hat : ∀ p q b, At (toLex (p, q)) b ↔ ∃ x ∈ items, key x = p ∧ Within x q b) :
    Enumerates At (items.flatMap entries) := by
  induction items generalizing At with
  | nil =>
    refine ⟨[], .nil, fun p => ?_, .nil⟩
    obtain ⟨⟨p, q⟩, rfl⟩ := toLex.surjective p
    simp [hat]
  | cons x items ih =>
    obtain ⟨hx, hitems⟩ := List.forall_mem_cons.mp hin
    obtain ⟨hlt, hs⟩ := List.pairwise_cons.mp hs
    obtain ⟨ps, hps, hpmem, hpall⟩ := hx
    have hrest : Enumerates (fun (pq : α ×ₗ α') b => ∃ y ∈ items, key y = (ofLex pq).1 ∧ Within y (ofLex pq).2 b)
        (items.flatMap entries) := ih hs hitems fun _ _ _ => Iff.rfl
    obtain ⟨qs, hqs, hqmem, hqall⟩ := hrest
    refine ⟨ps.map (fun q => toLex (key x, q)) ++ qs, List.pairwise_append.mpr ⟨?_, hqs, ?_⟩, ?_, ?_⟩
    · refine List.pairwise_map.mpr (hps.imp ?_)
      intro q q' hlt
      exact Prod.Lex.toLex_lt_toLex.mpr (Or.inr ⟨rfl, hlt⟩)
    · intro p hp q hq
      obtain ⟨p, -, rfl⟩ := List.mem_map.mp hp
      obtain ⟨⟨q, q'⟩, rfl⟩ := toLex.surjective q
      obtain ⟨b, y, hy, hk, -⟩ := (hqmem _).mp hq
      exact Prod.Lex.toLex_lt_toLex.mpr (Or.inl (hk ▸ hlt y hy))
    · intro place
      obtain ⟨⟨p, q⟩, rfl⟩ := toLex.surjective place
      simp only [List.mem_append, List.mem_map, hpmem, hqmem, hat, List.exists_mem_cons_iff, exists_or, ofLex_toLex]
      refine or_congr_left ⟨?_, ?_⟩
      · rintro ⟨q', ⟨b, hb⟩, he⟩
        obtain ⟨rfl, rfl⟩ := Prod.mk.inj (toLex.injective he)
        exact ⟨b, rfl, hb⟩
      · rintro ⟨b, rfl, hb⟩
        exact ⟨q, ⟨b, hb⟩, rfl⟩
    · rw [List.flatMap_cons]
      refine List.rel_append (List.forall₂_map_left_iff.mpr (hpall.imp fun q b hb => ?_)) (hqall.imp fun pq b hb => ?_)
      · exact (hat _ _ _).mpr ⟨x, List.mem_cons_self, rfl, hb⟩
      · obtain ⟨y, hy, hk, hb⟩ := hb
        obtain ⟨⟨p, q⟩, rfl⟩ := toLex.surjective pq
        exact (hat _ _ _).mpr ⟨y, List.mem_cons_of_mem _ hy, hk, hb⟩

lemma zipIdx_sorted (l : List β) : l.zipIdx.Pairwise fun x y => x.2 < y.2 := by
  rw [List.pairwise_iff_getElem]
  intro i j hi hj hij
  simpa using hij

lemma enumerates_filterMap_getElem? (l : List γ) (value? : γ → Option β) :
    Enumerates (fun (i : ℕ) b => ∃ x, l[i]? = some x ∧ value? x = some b) (l.filterMap value?) := by
  have hl : l.filterMap value? = l.zipIdx.filterMap fun x => value? x.1 := by
    conv_lhs => rw [← List.zipIdx_map_fst 0 l, List.filterMap_map]
    rfl
  rw [hl]
  refine enumerates_filterMap Prod.snd (zipIdx_sorted l) fun i b => ?_
  constructor
  · rintro ⟨x, hx, hb⟩
    exact ⟨(x, i), List.mem_zipIdx_iff_getElem?.mpr hx, rfl, hb⟩
  · rintro ⟨⟨x, i⟩, hx, rfl, hb⟩
    exact ⟨x, List.mem_zipIdx_iff_getElem?.mp hx, hb⟩

lemma enumerates_flatMap_getElem? {Within : γ → α' → β → Prop} {At : ℕ ×ₗ α' → β → Prop} {l : List γ}
    {entries : γ → List β} (hin : ∀ x ∈ l, Enumerates (Within x) (entries x))
    (hat : ∀ i q b, At (toLex (i, q)) b ↔ ∃ x, l[i]? = some x ∧ Within x q b) : Enumerates At (l.flatMap entries) := by
  have hl : l.flatMap entries = l.zipIdx.flatMap fun x => entries x.1 := by
    conv_lhs => rw [← List.zipIdx_map_fst 0 l, List.flatMap_map]
  rw [hl]
  refine enumerates_flatMap Prod.snd (zipIdx_sorted l) (fun x hx => hin x.1 ?_) fun i q b => (hat i q b).trans ?_
  · exact List.mem_of_getElem? (List.mem_zipIdx_iff_getElem?.mp hx)
  · constructor
    · rintro ⟨x, hx, hb⟩
      exact ⟨(x, i), List.mem_zipIdx_iff_getElem?.mpr hx, rfl, hb⟩
    · rintro ⟨⟨x, i⟩, hx, rfl, hb⟩
      exact ⟨x, List.mem_zipIdx_iff_getElem?.mp hx, hb⟩

end DiscountTables
