import DiscountTables.Pattern.Reading
import DiscountTables.Proofs.Results
import Mathlib.Tactic

namespace DiscountTables.Pattern

open Text

namespace Cursor

def left (c : Cursor) : ℕ := c.rest.length

lemma rest_next (c : Cursor) : c.next.rest = c.rest.tail := by
  obtain ⟨p, rest⟩ := c
  cases rest <;> rfl

lemma rest_drop (c : Cursor) (n : ℕ) : (c.drop n).rest = c.rest.drop n := by
  induction n with
  | zero => rfl
  | succ n ih =>
    rw [drop, Nat.repeat, rest_next, ← drop, ih, List.tail_drop]

lemma skipFrom_suffix (inComment : Bool) (p : Place) (rest : List Char) :
    (skipFrom inComment p rest).rest <:+ rest := by
  induction rest generalizing inComment p with
  | nil => exact List.suffix_rfl
  | cons d rest ih =>
    simp only [skipFrom]
    split
    · exact (ih _ _).trans (List.suffix_cons _ _)
    · split
      · exact (ih _ _).trans (List.suffix_cons _ _)
      · split
        · exact (ih _ _).trans (List.suffix_cons _ _)
        · exact List.suffix_rfl

lemma skip_suffix (verbose : Bool) (c : Cursor) : (c.skip verbose).rest <:+ c.rest := by
  simp only [skip]
  split
  · exact skipFrom_suffix _ _ _
  · exact List.suffix_rfl

lemma advance_suffix (verbose : Bool) (c : Cursor) : (c.advance verbose).rest <:+ c.rest := by
  have hnext : c.next.rest <:+ c.rest := by
    rw [rest_next]
    exact List.tail_suffix _
  exact (skip_suffix verbose c.next).trans hnext

variable {c d : Cursor} {verbose : Bool}

lemma left_pos_iff : 0 < c.left ↔ c.rest ≠ [] := List.length_pos_iff

lemma left_next_le : c.next.left ≤ c.left := by
  simp [left, rest_next]

lemma left_next_lt (h : 0 < c.left) : c.next.left < c.left := by
  simp only [left, rest_next, List.length_tail] at h ⊢
  omega

lemma left_drop_le (n : ℕ) : (c.drop n).left ≤ c.left := by
  simp [left, rest_drop]

lemma left_skip_le : (c.skip verbose).left ≤ c.left := (skip_suffix verbose c).length_le

lemma left_advance_le : (c.advance verbose).left ≤ c.left := left_skip_le.trans left_next_le

lemma left_advance_lt (h : 0 < c.left) : (c.advance verbose).left < c.left :=
  left_skip_le.trans_lt (left_next_lt h)

lemma left_collect_le (keep : Char → Bool) (fuel : ℕ) (read : List Char) :
    (collect verbose keep fuel read c).2.left ≤ c.left := by
  induction fuel generalizing read c with
  | zero => exact le_rfl
  | succ fuel ih =>
    simp only [collect]
    split
    · exact le_rfl
    · split
      · exact (ih _).trans left_advance_le
      · exact le_rfl

lemma left_takeWhile_le (keep : Char → Bool) : (c.takeWhile verbose keep).2.left ≤ c.left :=
  left_collect_le keep _ _

end Cursor

section Items

variable {verbose : Bool} {c d : Cursor}

lemma left_decimal_le : (decimal verbose c).2.left ≤ c.left :=
  (Cursor.left_takeWhile_le _).trans ((Cursor.left_takeWhile_le _).trans (Cursor.left_takeWhile_le _))

lemma left_fixedHex_le {n : ℕ} {read digits : List ℕ} (h : fixedHex verbose n read c = .ok (digits, d)) :
    d.left ≤ c.left := by
  induction n generalizing read c with
  | zero =>
    cases h
    exact le_rfl
  | succ n ih =>
    simp only [fixedHex] at h
    split at h
    · cases h
    · split at h
      · cases h
      · exact (ih h).trans Cursor.left_advance_le

lemma left_hexEscape_le {letter : Char} {first : Place} {item : Item}
    (h : hexEscape verbose letter first c = .ok (item, d)) : d.left ≤ c.left := by
  simp only [hexEscape] at h
  split at h
  · cases h
  · split at h
    · cases h
    · split at h
      · cases h
      · split at h
        · cases h
        · cases h
          exact Cursor.left_advance_le.trans ((Cursor.left_takeWhile_le _).trans
            (Cursor.left_advance_le.trans Cursor.left_advance_le))
    · cases h
  · obtain ⟨⟨digits, rest⟩, hd, h⟩ := bind_eq_ok.mp h
    simp only at h
    split at h
    · cases h
    · cases h
      exact (left_fixedHex_le hd).trans Cursor.left_advance_le

lemma left_propertyEscape_le {negated : Bool} {first : Place} {item : Item}
    (h : propertyEscape verbose negated first c = .ok (item, d)) : d.left ≤ c.left := by
  simp only [propertyEscape] at h
  split at h
  · cases h
  · split at h
    · cases h
    · cases h
      exact Cursor.left_next_le.trans ((Cursor.left_takeWhile_le _).trans
        (Cursor.left_advance_le.trans Cursor.left_advance_le))
  · split at h
    · cases h
    · cases h
      exact Cursor.left_advance_le.trans Cursor.left_advance_le

lemma left_wordBoundary_le {first : Place} {item : Item}
    (h : wordBoundary verbose first c = .ok (item, d)) : d.left ≤ c.left := by
  simp only [wordBoundary] at h
  split at h
  · split at h
    · cases h
    · split at h
      · split at h
        · split at h
          · cases h
            exact Cursor.left_next_le.trans ((Cursor.left_takeWhile_le _).trans Cursor.left_advance_le)
          · cases h
        · cases h
      · cases h
        exact le_rfl
  · cases h
    exact le_rfl

lemma left_escape_lt {item : Item} (hc : 0 < c.left) (h : escape verbose c = .ok (item, d)) :
    d.left < c.left := by
  have hn := Cursor.left_next_lt hc
  simp only [escape] at h
  split at h
  · cases h
  · split at h
    · cases h
    split at h
    · exact (left_hexEscape_le h).trans_lt hn
    split at h
    · exact (left_propertyEscape_le h).trans_lt hn
    split at h
    · exact ((left_wordBoundary_le h).trans Cursor.left_next_le).trans_lt hn
    split at h
    · cases h
      exact Cursor.left_next_le.trans_lt hn
    split at h
    · cases h
      exact Cursor.left_next_le.trans_lt hn
    · cases h
      exact Cursor.left_next_le.trans_lt hn
    · cases h
      exact Cursor.left_next_le.trans_lt hn
    · cases h

lemma left_plainItem_lt {item : Item} (h : plainItem verbose c = .ok (item, d)) : d.left < c.left := by
  simp only [plainItem] at h
  split at h
  · rename_i hc
    exact left_escape_lt (by simp [Cursor.left, hc]) h
  · rename_i hc
    cases h
    exact Cursor.left_next_lt (by simp [Cursor.left, hc])
  · cases h

end Items

section Classes

variable {verbose : Bool} {c d : Cursor}

lemma left_leadingHyphens_le (fuel : ℕ) (read : List ClassSyntax) :
    (leadingHyphens verbose fuel read c).2.left ≤ c.left := by
  induction fuel generalizing read c with
  | zero => exact le_rfl
  | succ fuel ih =>
    simp only [leadingHyphens]
    split
    · exact (ih _).trans Cursor.left_advance_le
    · exact le_rfl

lemma left_openClass_lt {x : Bool × Span × List ClassSyntax} (hc : 0 < c.left)
    (h : openClass verbose c = .ok (x, d)) : d.left < c.left := by
  have hn : (c.advance verbose).left < c.left := Cursor.left_advance_lt hc
  simp only [openClass] at h
  split at h
  · cases h
  rename_i e _ _
  generalize hg :
    (if (e == '^') = true then (c.advance verbose).advance verbose else c.advance verbose) = c₁ at h
  have hopen : c₁.left < c.left := by
    rw [← hg]
    split
    · exact Cursor.left_advance_le.trans_lt hn
    · exact hn
  split at h
  · cases h
  split at h
  · cases h
  split at h
  · split at h
    · cases h
    · cases h
      exact (Cursor.left_advance_le.trans (left_leadingHyphens_le _ _)).trans_lt hopen
  · cases h
    exact (left_leadingHyphens_le _ _).trans_lt hopen

lemma left_namedClass?_lt {x : ClassSyntax} (hc : 0 < c.left) (h : namedClass? c = some (x, d)) :
    d.left < c.left := by
  have hdrop : (c.drop 2).left < c.left := by
    simp only [Cursor.left, Cursor.rest_drop, List.length_drop] at hc ⊢
    omega
  simp only [namedClass?] at h
  split at h
  · generalize hg :
      (if ((c.drop 2).rest.head? == some '^') = true then (c.drop 2).next else c.drop 2) = c₁ at h
    have hinside : c₁.left < c.left := by
      rw [← hg]
      split
      · exact Cursor.left_next_le.trans_lt hdrop
      · exact hdrop
    split at h
    · obtain ⟨_, _, h⟩ := Option.map_eq_some_iff.mp h
      cases h
      exact ((Cursor.left_drop_le 2).trans (Cursor.left_takeWhile_le _)).trans_lt hinside
    · cases h
  · cases h

lemma left_classRange_lt {frames : List ClassFrame} {x : ClassSyntax}
    (h : classRange verbose frames c = .ok (x, d)) : d.left < c.left := by
  obtain ⟨⟨item, c₁⟩, hitem, h⟩ := bind_eq_ok.mp h
  have hlt := left_plainItem_lt hitem
  have hskip : (c₁.skip verbose).left < c.left := Cursor.left_skip_le.trans_lt hlt
  simp only at h
  split at h
  · cases h
  · split at h
    · obtain ⟨_, _, h⟩ := bind_eq_ok.mp h
      cases h
      exact hskip
    · split at h
      · cases h
      · obtain ⟨⟨other, c₂⟩, hother, h⟩ := bind_eq_ok.mp h
        obtain ⟨_, _, h⟩ := bind_eq_ok.mp h
        obtain ⟨_, _, h⟩ := bind_eq_ok.mp h
        split at h
        · cases h
          exact (left_plainItem_lt hother).trans (Cursor.left_advance_le.trans_lt hskip)
        · cases h

end Classes

section Groups

variable {verbose : Bool} {c d : Cursor}

lemma left_flagItems_le {fuel : ℕ} {items result : List (Option Flag × Span)}
    (h : flagItems fuel items c = .ok (result, d)) : d.left ≤ c.left := by
  induction fuel generalizing items c with
  | zero =>
    cases h
    exact le_rfl
  | succ fuel ih =>
    simp only [flagItems] at h
    split at h
    · cases h
    split at h
    · split at h
      · cases h
      · cases h
        exact le_rfl
    split at h
    · split at h
      · split at h
        · cases h
        · exact (ih h).trans Cursor.left_next_le
      · cases h
    · split at h
      · cases h
      · exact (ih h).trans Cursor.left_next_le

lemma left_groupNameTail_le {fuel : ℕ} {read result : List Char}
    (h : groupNameTail fuel read c = .ok (result, d)) : d.left ≤ c.left := by
  induction fuel generalizing read c with
  | zero =>
    cases h
    exact le_rfl
  | succ fuel ih =>
    simp only [groupNameTail] at h
    split at h
    · cases h
      exact le_rfl
    split at h
    · cases h
      exact le_rfl
    split at h
    · exact (ih h).trans Cursor.left_next_le
    · cases h

lemma left_groupName_le {names : List (String × Span)} {named : String × Span}
    (h : groupName names c = .ok (named, d)) : d.left ≤ c.left := by
  simp only [groupName] at h
  split at h
  · cases h
  obtain ⟨⟨read, after⟩, htail, h⟩ := bind_eq_ok.mp h
  simp only at h
  split at h
  · cases h
  split at h
  · cases h
  split at h
  · cases h
  · cases h
    exact Cursor.left_next_le.trans (left_groupNameTail_le htail)

lemma left_countBounds_le {first : Place} {count : Count}
    (h : countBounds verbose first c = .ok (count, d)) : d.left ≤ c.left := by
  have hdecimal : (decimal verbose c).2.left ≤ c.left := left_decimal_le
  simp only [countBounds] at h
  split at h
  · cases h
  split at h
  · cases h
  · split at h
    · cases h
    · obtain ⟨_, _, h⟩ := map_eq_ok.mp h
      cases h
      exact Cursor.left_advance_le.trans hdecimal
    · obtain ⟨_, _, h⟩ := bind_eq_ok.mp h
      obtain ⟨_, _, h⟩ := bind_eq_ok.mp h
      cases h
      exact left_decimal_le.trans (Cursor.left_advance_le.trans hdecimal)
  · obtain ⟨_, _, h⟩ := map_eq_ok.mp h
    cases h
    exact hdecimal

end Groups

lemma left_classBody_lt {verbose : Bool} {fuel : ℕ} {frames : List ClassFrame} {place : Span}
    {items : List ClassSyntax} {x : ClassSyntax} {c d : Cursor}
    (h : classBody verbose fuel frames place items c = .ok (x, d)) : d.left < c.left := by
  induction fuel generalizing frames place items c with
  | zero => cases h
  | succ fuel ih =>
    have hskip : (c.skip verbose).left ≤ c.left := Cursor.left_skip_le
    simp only [classBody] at h
    split at h
    · cases h
    · rename_i hrest
      have hpos : 0 < (c.skip verbose).left := by simp [Cursor.left, hrest]
      split at h
      · rename_i hnamed
        split at hnamed
        · cases hnamed
        · exact (ih h).trans ((left_namedClass?_lt hpos hnamed).trans_le hskip)
      · obtain ⟨⟨⟨negated, span, inner⟩, after⟩, hopen, h⟩ := bind_eq_ok.mp h
        exact (ih h).trans ((left_openClass_lt hpos hopen).trans_le hskip)
    · rename_i hrest
      have hnext : (c.skip verbose).next.left < c.left :=
        (Cursor.left_next_lt (by simp [Cursor.left, hrest])).trans_le hskip
      split at h
      · split at h
        · cases h
          exact hnext
        · exact (ih h).trans hnext
      · cases h
    · rename_i hrest
      split at h
      · have hdrop : ((c.skip verbose).drop 2).left ≤ (c.skip verbose).left := Cursor.left_drop_le 2
        exact (ih h).trans_le (hdrop.trans hskip)
      · obtain ⟨⟨item, after⟩, hitem, h⟩ := bind_eq_ok.mp h
        exact (ih h).trans ((left_classRange_lt hitem).trans_le hskip)

lemma left_characterClass_lt {verbose : Bool} {x : ClassSyntax} {c d : Cursor}
    (h : characterClass verbose c = .ok (x, d)) : d.left < c.left := left_classBody_lt h

namespace Progress

variable {p q : Progress}

lemma left_parenthesis_lt (hp : 0 < p.cursor.left) (h : p.parenthesis = .ok q) :
    q.cursor.left < p.cursor.left := by
  have hadvance : (p.cursor.advance p.verbose).left < p.cursor.left := Cursor.left_advance_lt hp
  simp only [parenthesis] at h
  split at h
  · cases h
  split at h
  · obtain ⟨⟨named, after⟩, hname, h⟩ := bind_eq_ok.mp h
    cases h
    exact (left_groupName_le hname).trans_lt ((Cursor.left_drop_le _).trans_lt hadvance)
  split at h
  · split at h
    · cases h
    obtain ⟨⟨items, after⟩, hitems, h⟩ := bind_eq_ok.mp h
    have hafter := (left_flagItems_le hitems).trans_lt (Cursor.left_next_le.trans_lt hadvance)
    split at h
    · split at h
      · cases h
      · cases h
        exact Cursor.left_next_le.trans_lt hafter
    · cases h
      exact Cursor.left_next_le.trans_lt hafter
  · cases h
    exact hadvance

lemma left_closeGroup_lt (hp : 0 < p.cursor.left) (h : p.closeGroup = .ok q) :
    q.cursor.left < p.cursor.left := by
  simp only [closeGroup] at h
  split at h
  · cases h
  · cases h
    exact Cursor.left_next_lt hp

lemma left_lazily_le (c : Cursor) : (lazily c).left ≤ c.left := by
  simp only [lazily]
  split
  · exact Cursor.left_next_le
  · exact le_rfl

lemma left_repeated_lt {count : Count} (hp : 0 < p.cursor.left) (h : p.repeated count = .ok q) :
    q.cursor.left < p.cursor.left := by
  obtain ⟨⟨e, before⟩, _, h⟩ := bind_eq_ok.mp h
  cases h
  exact (left_lazily_le _).trans_lt (Cursor.left_next_lt hp)

lemma left_counted_lt (hp : 0 < p.cursor.left) (h : p.counted = .ok q) :
    q.cursor.left < p.cursor.left := by
  obtain ⟨⟨e, before⟩, _, h⟩ := bind_eq_ok.mp h
  obtain ⟨⟨count, c⟩, hcount, h⟩ := bind_eq_ok.mp h
  simp only at h
  split at h
  · split at h
    · cases h
      exact (left_lazily_le _).trans_lt (Cursor.left_advance_le.trans_lt
        ((left_countBounds_le hcount).trans_lt (Cursor.left_advance_lt hp)))
    · cases h
  · cases h

lemma left_step_lt {c : Char} (hp : 0 < p.cursor.left) (h : p.step c = .ok q) :
    q.cursor.left < p.cursor.left := by
  have hnext := Cursor.left_next_lt hp
  simp only [step] at h
  split at h
  · exact left_parenthesis_lt hp h
  · exact left_closeGroup_lt hp h
  · cases h
    exact hnext
  · obtain ⟨⟨x, after⟩, hx, h⟩ := bind_eq_ok.mp h
    cases h
    exact left_characterClass_lt hx
  · exact left_repeated_lt hp h
  · exact left_repeated_lt hp h
  · exact left_repeated_lt hp h
  · exact left_counted_lt hp h
  · cases h
    exact hnext
  · cases h
    exact hnext
  · cases h
    exact hnext
  · obtain ⟨⟨item, after⟩, hitem, h⟩ := bind_eq_ok.mp h
    cases h
    exact left_plainItem_lt hitem

end Progress

end DiscountTables.Pattern
