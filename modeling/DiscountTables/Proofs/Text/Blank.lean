import DiscountTables.Text.Basic
import Mathlib.Data.List.TakeWhile
import Mathlib.Tactic

namespace DiscountTables.Text

variable {s pre mid post : List Char}

def AllBlank (s : List Char) : Prop := ∀ c ∈ s, isBlank c = true

lemma allBlank_nil : AllBlank [] := by simp [AllBlank]

lemma AllBlank.notMem {c : Char} (h : AllBlank s) (hc : isBlank c = false) : c ∉ s := by
  intro hin
  rw [h c hin] at hc
  cases hc

lemma skipBlanks_append (h : AllBlank pre) (hmid : ∀ c ∈ mid.head?, isBlank c = false) :
    skipBlanks (pre ++ mid) = mid := by
  rw [skipBlanks, List.dropWhile_append_of_pos h]
  cases mid with
  | nil => rfl
  | cons c mid => simp [hmid c rfl]

lemma skipBlanks_cons {c : Char} (h : AllBlank pre) (hc : isBlank c = false) :
    skipBlanks (pre ++ c :: mid) = c :: mid := by
  apply skipBlanks_append h
  rintro d hd
  cases hd
  exact hc

lemma exists_skipBlanks (s : List Char) : ∃ pre, AllBlank pre ∧ s = pre ++ skipBlanks s ∧
    ∀ c ∈ (skipBlanks s).head?, isBlank c = false := by
  refine ⟨s.takeWhile isBlank, fun c hc => List.mem_takeWhile_imp hc, List.takeWhile_append_dropWhile.symm, ?_⟩
  intro c hc
  have h := List.head?_dropWhile_not isBlank s
  rw [skipBlanks] at hc
  rw [hc] at h
  simpa using h

lemma AllBlank.append (hpre : AllBlank pre) (hpost : AllBlank post) : AllBlank (pre ++ post) :=
  fun c hc => (List.mem_append.mp hc).elim (hpre c) (hpost c)

lemma skipBlanks_of_allBlank (h : AllBlank s) : skipBlanks s = [] := by
  have hskip : skipBlanks (s ++ []) = [] := skipBlanks_append h (by simp)
  rwa [List.append_nil] at hskip

lemma skipBlanks_mono {t : List Char} (h : t <+: s) : skipBlanks t <+: skipBlanks s := by
  obtain ⟨more, rfl⟩ := h
  rw [skipBlanks, skipBlanks, List.dropWhile_append]
  split
  · rename_i hempty
    rw [List.isEmpty_iff.mp hempty]
    exact List.nil_prefix
  · exact List.prefix_append _ _

lemma skipBlanks_append_cons {c : Char} (hc : isBlank c = false) :
    skipBlanks (s ++ c :: mid) = skipBlanks s ++ c :: mid := by
  have hstop : (c :: mid).dropWhile isBlank = c :: mid := List.dropWhile_cons_of_neg (by simp [hc])
  rw [skipBlanks, skipBlanks, List.dropWhile_append, hstop]
  split
  · rename_i hempty
    rw [List.isEmpty_iff.mp hempty, List.nil_append]
  · rfl

lemma AllBlank.reverse (h : AllBlank s) : AllBlank s.reverse := fun c hc => h c (List.mem_reverse.mp hc)

lemma trimChars_append (hpre : AllBlank pre) (hpost : AllBlank post) (hhead : ∀ c ∈ mid.head?, isBlank c = false)
    (hlast : ∀ c ∈ mid.getLast?, isBlank c = false) (hne : mid ≠ []) : trimChars (pre ++ mid ++ post) = mid := by
  have hskip : skipBlanks (pre ++ mid ++ post) = mid ++ post := by
    rw [List.append_assoc]
    apply skipBlanks_append hpre
    rwa [List.head?_append_of_ne_nil _ hne]
  rw [trimChars, hskip, List.reverse_append, skipBlanks_append hpost.reverse, List.reverse_reverse]
  rwa [List.head?_reverse]

lemma exists_trimChars (s : List Char) : ∃ pre post, AllBlank pre ∧ AllBlank post ∧ s = pre ++ trimChars s ++ post ∧
    (∀ c ∈ (trimChars s).head?, isBlank c = false) ∧ ∀ c ∈ (trimChars s).getLast?, isBlank c = false := by
  obtain ⟨pre, hpre, hs, hhead⟩ := exists_skipBlanks s
  obtain ⟨post, hpost, hreverse, hlast⟩ := exists_skipBlanks (skipBlanks s).reverse
  have hmid : skipBlanks s = trimChars s ++ post.reverse := by
    rw [trimChars, ← List.reverse_append, ← hreverse, List.reverse_reverse]
  refine ⟨pre, post.reverse, hpre, hpost.reverse, by rw [List.append_assoc, ← hmid]; exact hs, ?_, ?_⟩
  · intro c hc
    apply hhead
    rw [hmid, List.head?_append, hc]
    rfl
  · rw [trimChars, List.getLast?_reverse]
    exact hlast

lemma isBlankText_iff (s : String) : isBlankText s = true ↔ trim s = "" := by
  have htrim : trim s = "" ↔ trimChars s.toList = [] := by
    rw [trim, ← String.toList_inj, String.toList_ofList]
    rfl
  rw [htrim, isBlankText, List.all_eq_true]
  constructor
  · intro h
    rw [trimChars, skipBlanks_of_allBlank h]
    rfl
  · intro h
    obtain ⟨pre, post, hpre, hpost, hs, -⟩ := exists_trimChars s.toList
    rw [h, List.append_nil] at hs
    rw [hs]
    exact hpre.append hpost

end DiscountTables.Text
