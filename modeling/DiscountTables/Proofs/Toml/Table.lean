import DiscountTables.Toml.Reading
import Mathlib.Data.String.Basic
import Mathlib.Tactic

namespace DiscountTables

lemma mem_insertByName {α : Type} {key : String} {v : α} {entries : List (String × α)} {e : String × α}
    (h : e ∈ insertByName key v entries) : e = (key, v) ∨ e ∈ entries := by
  induction entries with
  | nil => exact Or.inl (List.mem_singleton.mp h)
  | cons head rest ih =>
    obtain ⟨k, w⟩ := head
    rw [insertByName] at h
    split at h
    · exact List.mem_cons.mp h
    split at h
    · exact (List.mem_cons.mp h).imp_right (List.mem_cons_of_mem _)
    · rcases List.mem_cons.mp h with rfl | hrest
      · exact Or.inr List.mem_cons_self
      · exact (ih hrest).imp_right (List.mem_cons_of_mem _)

namespace Toml

def IsTable (entries : List (String × Value)) : Prop := entries.Pairwise fun a b => a.1 < b.1

lemma IsTable.insertByName {entries : List (String × Value)} (h : IsTable entries) (key : String) (v : Value) :
    IsTable (insertByName key v entries) := by
  induction entries with
  | nil => exact List.pairwise_singleton _ _
  | cons head rest ih =>
    obtain ⟨k, w⟩ := head
    obtain ⟨hhead, hrest⟩ := List.pairwise_cons.mp h
    rw [DiscountTables.insertByName]
    split
    · rename_i hlt
      refine List.pairwise_cons.mpr ⟨fun e he => ?_, h⟩
      rcases List.mem_cons.mp he with rfl | he
      · exact hlt
      · exact hlt.trans (hhead e he)
    rename_i hle
    split
    · rename_i heq
      exact List.pairwise_cons.mpr ⟨fun e he => heq ▸ hhead e he, hrest⟩
    · rename_i hne
      refine List.pairwise_cons.mpr ⟨fun e he => ?_, ih hrest⟩
      rcases mem_insertByName he with rfl | he
      · exact lt_of_le_of_ne (not_lt.mp hle) (Ne.symm hne)
      · exact hhead e he

lemma IsTable.lookup_eq_some_iff {entries : List (String × Value)} (h : IsTable entries) {key : String} {v : Value} :
    entries.lookup key = some v ↔ (key, v) ∈ entries := by
  induction entries with
  | nil => simp
  | cons head rest ih =>
    obtain ⟨k, w⟩ := head
    obtain ⟨hhead, hrest⟩ := List.pairwise_cons.mp h
    by_cases hk : key = k
    · subst hk
      have hmem : (key, v) ∉ rest := fun hmem => (hhead _ hmem).false
      simp [hmem, eq_comm]
    · simp [List.lookup_cons, beq_eq_false_iff_ne.mpr hk, hk, ih hrest]

namespace Value

lemma isTable_of_entryMeanings? {written entries : List (String × Value)} (h : entryMeanings? written = some entries) :
    IsTable entries ∧ ∀ e ∈ entries, ∃ v, meaning? v = some e.2 := by
  induction written generalizing entries with
  | nil =>
    cases h
    exact ⟨.nil, fun e he => absurd he List.not_mem_nil⟩
  | cons head rest ih =>
    obtain ⟨k, v⟩ := head
    rw [entryMeanings?] at h
    obtain ⟨w, hw, h⟩ := Option.bind_eq_some_iff.mp h
    obtain ⟨read, hread, h⟩ := Option.bind_eq_some_iff.mp h
    cases h
    obtain ⟨htable, hall⟩ := ih hread
    refine ⟨htable.insertByName k w, fun e he => ?_⟩
    rcases mem_insertByName he with rfl | he
    · exact ⟨v, hw⟩
    · exact hall e he

lemma isTable_of_meaning? {v : Value} {entries : List (String × Value)} (h : meaning? v = some (.table entries)) :
    IsTable entries := by
  cases v with
  | table written =>
    rw [meaning?] at h
    split at h
    · rw [datetimeOf?.eq_def] at h
      split at h
      · obtain ⟨_, _, hdatetime⟩ := Option.map_eq_some_iff.mp h
        cases hdatetime
      · cases h
    · obtain ⟨read, hread, htable⟩ := Option.map_eq_some_iff.mp h
      cases htable
      exact (isTable_of_entryMeanings? hread).1
  | array items =>
    rw [meaning?] at h
    obtain ⟨_, _, harray⟩ := Option.map_eq_some_iff.mp h
    cases harray
  | _ => cases h

end Value

lemma isTable_of_read? {text : String} {document : List (String × Value)} (h : read? text = some document) :
    IsTable document ∧ ∀ key entries, document.lookup key = some (.table entries) → IsTable entries := by
  have hmeanings : ∃ written, Value.entryMeanings? written = some document := by
    rw [read?.eq_def] at h
    simp only at h
    split at h
    · exact ⟨_, h⟩
    · cases h
  obtain ⟨written, hwritten⟩ := hmeanings
  obtain ⟨htable, hall⟩ := Value.isTable_of_entryMeanings? hwritten
  refine ⟨htable, fun key entries hentries => ?_⟩
  obtain ⟨v, hv⟩ := hall _ (htable.lookup_eq_some_iff.mp hentries)
  exact Value.isTable_of_meaning? hv

end Toml

end DiscountTables
