import DiscountTables.Proofs.Pattern.Advance
import DiscountTables.Proofs.Pattern.Bare

/-!
Moving through a pattern that more text is put behind: a parenthesis, and perhaps an end of text after it.

Several such texts are read along with the pattern, one for each index `i`, since what decides about them is
the same for all: whether a comment takes them in.
-/

namespace DiscountTables.Pattern

open Text

inductive Closing : List Char → Prop
  | alone : Closing [')']
  | anchored : Closing [')', '$']

def Spent (rest : List Char) : Prop := rest = [] ∨ rest = ['$']

lemma Closing.eq_cons {tail : List Char} (ht : Closing tail) : ∃ more, tail = ')' :: more ∧ Spent more := by
  cases ht with
  | alone => exact ⟨[], rfl, Or.inl rfl⟩
  | anchored => exact ⟨['$'], rfl, Or.inr rfl⟩

lemma Closing.rest_skipFrom {tail : List Char} (ht : Closing tail) (inComment : Bool) (p : Place) :
    (Cursor.skipFrom inComment p tail).rest = if inComment then [] else tail := by
  cases ht <;> cases inComment <;> rfl

variable {ι : Type} {tail : ι → List Char} {verbose : Bool} {c : Cursor} {c' : ι → Cursor}

/-- The `c' i` stand where `c` does, with `tail i` behind the text. A comment may have taken the tails. -/
def Cursor.Follows (tail : ι → List Char) (c : Cursor) (c' : ι → Cursor) : Prop :=
  (∀ i, (c' i).rest = c.rest ++ tail i) ∨ c.rest = [] ∧ ∀ i, (c' i).rest = []

namespace Cursor

lemma collect_of_stop {keep : Char → Bool} {fuel : ℕ} {read : List Char}
    (h : ∀ d ∈ c.rest.head?, keep d = false) : collect verbose keep fuel read c = (read.reverse, c) := by
  cases fuel with
  | zero => rfl
  | succ fuel =>
    simp only [collect]
    split
    · rfl
    · rename_i d _ hc
      rw [if_neg]
      simpa using h d (by simp [hc])

lemma rest_collect_eq_nil {keep : Char → Bool} {fuel : ℕ} {read : List Char} (hf : c.left ≤ fuel)
    (h : ∀ d ∈ c.rest, keep d = true) : (collect verbose keep fuel read c).2.rest = [] := by
  induction fuel generalizing c read with
  | zero => exact List.length_eq_zero_iff.mp (Nat.le_zero.mp hf)
  | succ fuel ih =>
    cases hc : c.rest with
    | nil => rw [collect_of_stop (by simp [hc]), hc]
    | cons d r =>
      have hlt : (c.advance verbose).left < c.left := left_advance_lt (by simp [left, hc])
      simp only [collect, hc, if_pos (h d (by simp [hc]))]
      exact ih (by omega) fun e he => h e ((advance_suffix verbose c).subset he)

namespace Follows

lemma append (h : c.Follows tail c') (hc : c.rest ≠ []) (i : ι) : (c' i).rest = c.rest ++ tail i :=
  h.resolve_right (fun hn => hc hn.1) i

lemma cons {d : Char} {r : List Char} (h : c.Follows tail c') (hc : c.rest = d :: r) (i : ι) :
    (c' i).rest = d :: (r ++ tail i) := by
  rw [h.append (by simp [hc]), hc, List.cons_append]

lemma atEnd (h : c.Follows tail c') (hc : c.rest = []) (i : ι) : (c' i).rest = tail i ∨ (c' i).rest = [] := by
  rcases h with h | h
  · exact Or.inl (by rw [h, hc, List.nil_append])
  · exact Or.inr (h.2 i)

lemma paren_or_nil (ht : ∀ i, Closing (tail i)) (h : c.Follows tail c') (hc : c.rest = []) (i : ι) :
    (∃ more, tail i = ')' :: more ∧ Spent more ∧ (c' i).rest = ')' :: more) ∨ (c' i).rest = [] := by
  obtain ⟨more, hi, hmore⟩ := (ht i).eq_cons
  exact (h.atEnd hc i).imp_left fun h => ⟨more, hi, hmore, h.trans hi⟩

lemma left_lt (h : c.Follows tail c') {d : Cursor} {d' : ι → Cursor} (hd : d.Follows tail d')
    (hlt : d.left < c.left) (i : ι) : (d' i).left < (c' i).left := by
  have hc : (c' i).left = c.left + (tail i).length := by
    simp only [left, h.append (left_pos_iff.mp (Nat.zero_lt_of_lt hlt)) i, List.length_append]
  have hle : (d' i).left ≤ d.left + (tail i).length := by
    rcases hd with hd | ⟨-, hd⟩
    · simp only [left, hd, List.length_append, le_refl]
    · simp [left, hd]
  omega

lemma next (h : c.Follows tail c') (hc : c.rest ≠ []) : c.next.Follows tail fun i => (c' i).next := by
  refine Or.inl fun i => ?_
  rw [rest_next, rest_next, h.append hc, List.tail_append_of_ne_nil hc]

lemma drop (h : c.Follows tail c') {n : ℕ} (hn : n ≤ c.left) (hc : c.rest ≠ []) :
    (c.drop n).Follows tail fun i => (c' i).drop n := by
  refine Or.inl fun i => ?_
  rw [rest_drop, rest_drop, h.append hc, List.drop_append_of_le_length hn]

lemma skipFrom (ht : ∀ i, Closing (tail i)) (inComment : Bool) (p : Place) (p' : ι → Place)
    (rest : List Char) : (skipFrom inComment p rest).Follows tail
      fun i => Cursor.skipFrom inComment (p' i) (rest ++ tail i) := by
  induction rest generalizing inComment p p' with
  | nil =>
    cases inComment with
    | false => exact Or.inl fun i => (ht i).rest_skipFrom false _
    | true => exact Or.inr ⟨rfl, fun i => (ht i).rest_skipFrom true _⟩
  | cons d rest ih =>
    simp only [List.cons_append, Cursor.skipFrom]
    split
    · exact ih _ _ _
    split
    · exact ih _ _ _
    split
    · exact ih _ _ _
    · exact Or.inl fun _ => rfl

lemma skip (ht : ∀ i, Closing (tail i)) (h : c.Follows tail c') (verbose : Bool) :
    (c.skip verbose).Follows tail fun i => (c' i).skip verbose := by
  simp only [Cursor.skip]
  split
  · rcases h with h | ⟨h, h'⟩
    · simp only [h]
      exact skipFrom ht false _ _ _
    · simp only [h, h']
      exact Or.inr ⟨rfl, fun _ => rfl⟩
  · exact h

lemma advance (ht : ∀ i, Closing (tail i)) (h : c.Follows tail c') (hc : c.rest ≠ []) (verbose : Bool) :
    (c.advance verbose).Follows tail fun i => (c' i).advance verbose := (h.next hc).skip ht verbose

lemma isPrefixOf_append {tail : List Char} (ht : Closing tail) {word : List Char} (hw : ')' ∉ word)
    (rest : List Char) : word.isPrefixOf (rest ++ tail) = word.isPrefixOf rest := by
  obtain ⟨more, rfl, -⟩ := ht.eq_cons
  induction word generalizing rest with
  | nil => simp
  | cons w word ih =>
    obtain ⟨hne, hw⟩ := List.ne_and_not_mem_of_not_mem_cons hw
    cases rest with
    | nil => simp [List.isPrefixOf, Ne.symm hne]
    | cons d rest => simp [List.isPrefixOf, ih hw]

lemma startsWith (ht : ∀ i, Closing (tail i)) (h : c.Follows tail c') {word : String}
    (hw : ')' ∉ word.toList) (i : ι) : (c' i).startsWith word = c.startsWith word := by
  simp only [Cursor.startsWith]
  rcases h with h | ⟨h, h'⟩
  · rw [h, isPrefixOf_append (ht i) hw]
  · rw [h, h']

lemma head?_of_atEnd (ht : ∀ i, Closing (tail i)) (h : c.Follows tail c') (hc : c.rest = [])
    {keep : Char → Bool} (hk : keep ')' = false) (i : ι) : ∀ d ∈ (c' i).rest.head?, keep d = false := by
  rcases h.paren_or_nil ht hc i with ⟨more, -, -, h⟩ | h
  · simp [h, hk]
  · simp [h]

lemma exists_eq_succ {m : ι → ℕ} (hm : ∀ i, 0 < m i) : ∃ k : ι → ℕ, ∀ i, m i = k i + 1 :=
  ⟨fun i => m i - 1, fun i => (Nat.sub_add_cancel (hm i)).symm⟩

lemma collect (ht : ∀ i, Closing (tail i)) {keep : Char → Bool} (hk : keep ')' = false) {n : ℕ} {m : ι → ℕ}
    (read : List Char) (h : c.Follows tail c') (hn : c.left ≤ n) (hm : ∀ i, (c' i).left ≤ m i) :
    (∀ i, (Cursor.collect verbose keep (m i) read (c' i)).1 = (Cursor.collect verbose keep n read c).1) ∧
      (Cursor.collect verbose keep n read c).2.Follows tail
        fun i => (Cursor.collect verbose keep (m i) read (c' i)).2 := by
  induction n generalizing m read c c' with
  | zero =>
    have hc : c.rest = [] := List.length_eq_zero_iff.mp (Nat.le_zero.mp hn)
    simp only [collect_of_stop (h.head?_of_atEnd ht hc hk _)]
    exact ⟨fun _ => rfl, h⟩
  | succ n ih =>
    cases hc : c.rest with
    | nil =>
      simp only [collect_of_stop (h.head?_of_atEnd ht hc hk _), Cursor.collect, hc]
      exact ⟨fun _ => trivial, h⟩
    | cons d r =>
      have hc' := h.cons hc
      have hlt : (c.advance verbose).left < c.left := left_advance_lt (by simp [left, hc])
      have hpos (i : ι) : 0 < (c' i).left := by simp [left, hc']
      have hlt' (i : ι) : ((c' i).advance verbose).left < (c' i).left := left_advance_lt (hpos i)
      obtain ⟨k, hmk⟩ := exists_eq_succ fun i => (hpos i).trans_le (hm i)
      have hle (i : ι) : ((c' i).advance verbose).left ≤ k i := by
        have := (hlt' i).trans_le ((hm i).trans_eq (hmk i))
        omega
      simp only [hmk, Cursor.collect, hc, hc']
      by_cases hd : keep d = true
      · simp only [hd, if_true]
        exact ih _ (h.advance ht (by simp [hc]) verbose) (by omega) hle
      · simp only [if_neg hd]
        exact ⟨fun _ => trivial, h⟩

lemma takeWhile (ht : ∀ i, Closing (tail i)) (h : c.Follows tail c') (verbose : Bool) (keep : Char → Bool)
    (hk : keep ')' = false) :
    (∀ i, ((c' i).takeWhile verbose keep).1 = (c.takeWhile verbose keep).1) ∧
      (c.takeWhile verbose keep).2.Follows tail fun i => ((c' i).takeWhile verbose keep).2 :=
  collect ht hk [] h le_rfl fun _ => le_rfl

lemma collect_through (ht : ∀ i, Closing (tail i)) {keep : Char → Bool}
    (hk : ∀ i, ∀ d ∈ tail i, keep d = true) {n : ℕ} {m : ι → ℕ} (read : List Char) (h : c.Follows tail c')
    (hn : c.left ≤ n) (hm : ∀ i, (c' i).left ≤ m i) :
    ((Cursor.collect verbose keep n read c).2.rest = [] →
      ∀ i, (Cursor.collect verbose keep (m i) read (c' i)).2.rest = []) ∧
    ((Cursor.collect verbose keep n read c).2.rest ≠ [] →
      (∀ i, (Cursor.collect verbose keep (m i) read (c' i)).1 = (Cursor.collect verbose keep n read c).1) ∧
      (Cursor.collect verbose keep n read c).2.Follows tail
        fun i => (Cursor.collect verbose keep (m i) read (c' i)).2) := by
  have atEnd {c : Cursor} {c' : ι → Cursor} (h : c.Follows tail c') (hc : c.rest = []) (i : ι) :
      ∀ d ∈ (c' i).rest, keep d = true := by
    rcases h.atEnd hc i with h | h
    · rw [h]
      exact hk i
    · simp [h]
  induction n generalizing m read c c' with
  | zero =>
    have hc : c.rest = [] := List.length_eq_zero_iff.mp (Nat.le_zero.mp hn)
    exact ⟨fun _ i => rest_collect_eq_nil (hm i) (atEnd h hc i), fun hne => absurd hc hne⟩
  | succ n ih =>
    cases hc : c.rest with
    | nil =>
      rw [collect_of_stop (by simp [hc])]
      exact ⟨fun _ i => rest_collect_eq_nil (hm i) (atEnd h hc i), fun hne => absurd hc hne⟩
    | cons d r =>
      have hc' := h.cons hc
      have hlt : (c.advance verbose).left < c.left := left_advance_lt (by simp [left, hc])
      have hpos (i : ι) : 0 < (c' i).left := by simp [left, hc']
      have hlt' (i : ι) : ((c' i).advance verbose).left < (c' i).left := left_advance_lt (hpos i)
      obtain ⟨k, hmk⟩ := exists_eq_succ fun i => (hpos i).trans_le (hm i)
      have hle (i : ι) : ((c' i).advance verbose).left ≤ k i := by
        have := (hlt' i).trans_le ((hm i).trans_eq (hmk i))
        omega
      simp only [hmk, Cursor.collect, hc, hc']
      by_cases hd : keep d = true
      · simp only [hd, if_true]
        exact ih _ (h.advance ht (by simp [hc]) verbose) (by omega) hle
      · simp only [if_neg hd]
        exact ⟨fun hn => absurd (hc.symm.trans hn) (by simp), fun _ => ⟨fun _ => trivial, h⟩⟩

lemma takeWhile_through (ht : ∀ i, Closing (tail i)) (h : c.Follows tail c') (verbose : Bool)
    (keep : Char → Bool) (hk : ∀ i, ∀ d ∈ tail i, keep d = true) :
    ((c.takeWhile verbose keep).2.rest = [] → ∀ i, ((c' i).takeWhile verbose keep).2.rest = []) ∧
    ((c.takeWhile verbose keep).2.rest ≠ [] →
      (∀ i, ((c' i).takeWhile verbose keep).1 = (c.takeWhile verbose keep).1) ∧
      (c.takeWhile verbose keep).2.Follows tail fun i => ((c' i).takeWhile verbose keep).2) :=
  collect_through ht hk [] h le_rfl fun _ => le_rfl

lemma peekBeyond_append {tail : List Char} (ht : Closing tail) (hashSeen : Bool) (rest : List Char) :
    peekBeyond hashSeen (rest ++ tail) = (peekBeyond hashSeen rest).or (some ')') := by
  obtain ⟨more, rfl, -⟩ := ht.eq_cons
  induction rest generalizing hashSeen with
  | nil => rfl
  | cons d rest ih =>
    simp only [List.cons_append, peekBeyond]
    split
    · exact ih _
    split
    · exact ih _
    · rfl

lemma peek?_eq_some_iff (ht : ∀ i, Closing (tail i)) (h : c.Follows tail c') (hc : c.rest ≠ []) {x : Char}
    (hx : x = ']' ∨ x = '-') (i : ι) : (c' i).peek? verbose = some x ↔ c.peek? verbose = some x := by
  have hne : ')' ≠ x := by
    rintro rfl
    revert hx
    decide
  obtain ⟨d, r, hc⟩ := List.exists_cons_of_ne_nil hc
  simp only [peek?, hc, h.cons hc]
  cases verbose with
  | false =>
    obtain ⟨more, hi, -⟩ := (ht i).eq_cons
    cases r <;> simp [hi, hne]
  | true =>
    rw [if_pos rfl, if_pos rfl, peekBeyond_append (ht i)]
    cases hp : peekBeyond false r with
    | some e => simp
    | none =>
      have hr : r.head? ≠ some x := by
        rintro hr
        obtain ⟨s, rfl⟩ := List.head?_eq_some_iff.mp hr
        rcases hx with rfl | rfl <;> simp [peekBeyond, isBlank] at hp
      simp [hne, hr]

end Follows

end Cursor

end DiscountTables.Pattern
