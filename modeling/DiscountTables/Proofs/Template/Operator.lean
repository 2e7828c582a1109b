import DiscountTables.Proofs.Template.Condition

namespace DiscountTables

namespace Template

open Text

variable {s word new tail param : List Char}

def replaceLast? (word new : List Char) : List Char → Option (List Char)
  | [] => none
  | c :: s => ((replaceLast? word new s).map (c :: ·)).or ((after? word (c :: s)).map (new ++ ·))

lemma replaceLast?_eq_none {c : Char} (hc : c ∈ word) (h : c ∉ s) : replaceLast? word new s = none := by
  induction s with
  | nil => rfl
  | cons d s ih =>
    have hafter : after? word (d :: s) = none := by
      by_contra hn
      obtain ⟨rest, hrest⟩ := Option.ne_none_iff_exists'.mp hn
      rw [after?_eq_some_iff.mp hrest] at h
      exact h (List.mem_append_left _ hc)
    rw [replaceLast?, ih fun hs => h (List.mem_cons_of_mem d hs), hafter]
    rfl

lemma toList_symbol_fits : Operator.fits.symbol.toList = ['m', 'a', 't', 'c', 'h', 'e', 's'] := by decide

lemma replaceLast?_matches (before : List Char) {behind : List Char} (h : 't' ∉ behind) :
    replaceLast? Operator.fits.symbol.toList new (before ++ (Operator.fits.symbol.toList ++ behind)) =
      some (before ++ (new ++ behind)) := by
  rw [toList_symbol_fits]
  induction before with
  | nil =>
    have hnone : replaceLast? ['m', 'a', 't', 'c', 'h', 'e', 's'] new behind = none :=
      replaceLast?_eq_none (c := 't') (by simp) h
    simp [replaceLast?, hnone, after?]
  | cons c before ih =>
    rw [List.cons_append, replaceLast?, ih]
    rfl

def withEqual (template : String) : String :=
  ((replaceLast? Operator.fits.symbol.toList Operator.equal.symbol.toList template.toList).map String.ofList).getD
    template

example : withEqual "matches.state  matches \"$param\" ;" = "matches.state  == \"$param\" ;" := by decide +kernel

lemma IsPlaceholder.unlike (h : IsPlaceholder param) : param ≠ [] ∧ 't' ∉ param := by
  rcases h with rfl | rfl <;> decide

structure Around (s before behind : List Char) (c : Condition) : Prop where
  eq : s = before ++ (Operator.fits.symbol.toList ++ behind)
  before_ne : before ≠ []
  behind_ne : behind ≠ []
  unlike : 't' ∉ behind
  replaced : condition (before ++ (Operator.equal.symbol.toList ++ behind)) = .ok ⟨c.path, .equal⟩

lemma exists_around {c : Condition} (h : condition s = .ok c) (hop : c.operator = .fits) :
    ∃ before behind, Around s before behind c := by
  obtain ⟨op?, hs, heq⟩ := exists_isCondition h
  rw [hop] at heq
  obtain @⟨before, x, gap, test, tail, hbefore, hpath, hgap, hword, htest, htail⟩ := hs
  cases htest with
  | absent => cases heq
  | @present op gap' param hinner hparam =>
    obtain rfl : op = .fits := heq.symm
    obtain ⟨hparam_ne, hparam_unlike⟩ := hparam.unlike
    refine ⟨before ++ x ++ gap, gap' ++ (param ++ tail), ?_, by simp [hword rfl], by simp [hparam_ne], ?_, ?_⟩
    · simp only [List.append_assoc]
    · rw [List.mem_append, List.mem_append]
      rintro (hmem | hmem | hmem)
      · exact absurd (hinner 't' hmem) (by decide)
      · exact hparam_unlike hmem
      · exact absurd (htail.mem 't' hmem) (by decide)
    · have htest : IsTest (some .equal) (Operator.equal.symbol.toList ++ gap' ++ param) := .present hinner hparam
      have hequal := IsCondition.of_parts hbefore hpath hgap (by simp) htest htail
      simpa only [List.append_assoc, Option.getD_some] using hequal.condition_eq

lemma condition_withEqual {cell : String} {c : Condition} (h : condition (trim cell).toList = .ok c)
    (hop : c.operator = .fits) : condition (trim (withEqual cell)).toList = .ok ⟨c.path, .equal⟩ := by
  obtain ⟨before, behind, ha⟩ := exists_around h hop
  obtain ⟨pre, post, hpre, hpost, hcell, hhead, hlast⟩ := exists_trimChars cell.toList
  have htrim : trimChars cell.toList = before ++ (Operator.fits.symbol.toList ++ behind) := by
    rw [← ha.eq, trim, String.toList_ofList]
  have hunlike : 't' ∉ behind ++ post := by
    rw [List.mem_append]
    rintro (ht | ht)
    · exact ha.unlike ht
    · exact absurd (hpost 't' ht) (by decide)
  have hreplaced : withEqual cell =
      String.ofList (pre ++ (before ++ (Operator.equal.symbol.toList ++ behind)) ++ post) := by
    have heq : cell.toList = (pre ++ before) ++ (Operator.fits.symbol.toList ++ (behind ++ post)) := by
      rw [hcell, htrim]
      simp only [List.append_assoc]
    rw [withEqual, heq, replaceLast?_matches _ hunlike, Option.map_some, Option.getD_some]
    simp only [List.append_assoc]
  rw [htrim] at hhead hlast
  rw [hreplaced, trim, String.toList_ofList, String.toList_ofList,
    trimChars_append hpre hpost _ _ (by simp [ha.before_ne])]
  · exact ha.replaced
  · rwa [List.head?_append_of_ne_nil _ ha.before_ne] at hhead ⊢
  · rw [← List.append_assoc, List.getLast?_append_of_ne_nil _ ha.behind_ne] at hlast ⊢
    exact hlast

end Template

open Template

lemma ConditionTemplate.read_withEqual {cell : String} {c : Condition}
    (h : condition (Text.trim cell).toList = .ok c) (hop : c.operator = .fits) :
    read (Text.trim (withEqual cell)) = (read (Text.trim cell)).map fun t => { t with operator := .equal } := by
  rw [read, read, h, condition_withEqual h hop]
  simp only
  cases RequestField.ofName? c.path.name <;> rfl

end DiscountTables
