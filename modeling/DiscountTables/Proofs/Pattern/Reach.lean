import DiscountTables.Pattern.Search
import Mathlib.Logic.Function.Iterate
import Mathlib.Tactic

namespace DiscountTables.Pattern

def Node.WellCounted : Node → Prop
  | .empty | .set _ | .look _ => True
  | .group _ body => body.WellCounted
  | .sequence a b | .choice a b => a.WellCounted ∧ b.WellCounted
  | .repetition count body => count.Valid ∧ body.WellCounted

def Positions.Within (t : List Char) (s : Positions) : Prop := ∀ i, s.testBit i = true → i ≤ t.length

lemma testBit_double_add (n i : ℕ) (b : Bool) :
    (2 * n + b.toNat).testBit i = if i = 0 then b else n.testBit (i - 1) := by
  cases i with
  | zero => cases b <;> simp [Nat.testBit_zero]
  | succ i =>
    have hn : (2 * n + b.toNat) / 2 = n := by
      have hb := b.toNat_lt
      omega
    simp [Nat.testBit_add_one, hn]

lemma Positions.testBit_ofChars (p : Char → Bool) (t : List Char) (i : ℕ) :
    (Positions.ofChars p t).testBit i = (t[i]?).any p := by
  induction t generalizing i with
  | nil => simp [ofChars]
  | cons c t ih =>
    rw [ofChars, testBit_double_add]
    cases i with
    | zero => simp
    | succ i => simpa using ih i

lemma Positions.testBit_between (p : Option Char → Option Char → Bool) (before : Option Char)
    (t : List Char) (i : ℕ) :
    (Positions.between p before t).testBit i =
      (decide (i ≤ t.length) && p (if i = 0 then before else t[i - 1]?) t[i]?) := by
  induction t generalizing i before with
  | nil =>
    cases i with
    | zero => cases h : p before none <;> simp [between, h]
    | succ i => cases h : p before none <;> simp [between, h, Nat.testBit_add_one]
  | cons c t ih =>
    rw [between, testBit_double_add]
    cases i with
    | zero => simp
    | succ i => cases i <;> simp [ih]

lemma repeatExactly_eq_iterate (f : Positions → Positions) (n : ℕ) (s : Positions) :
    repeatExactly f n s = f^[n] s := by
  induction n generalizing s with
  | zero => rfl
  | succ n ih =>
    rw [repeatExactly, Function.iterate_succ_apply]
    by_cases h : f s = s
    · simp [h, Function.iterate_fixed h]
    · simp [h, ih]

lemma repeatUpTo_eq_iterate (f : Positions → Positions) (n : ℕ) (s : Positions) :
    repeatUpTo f n s = (fun s => s ||| f s)^[n] s := by
  induction n generalizing s with
  | zero => rfl
  | succ n ih =>
    rw [repeatUpTo, Function.iterate_succ_apply]
    by_cases h : s ||| f s = s
    · have hf := Function.iterate_fixed (f := fun s => s ||| f s) h n
      simp [h, hf]
    · simp [h, ih]

lemma Spans.bounds {t : List Char} {r : Node} {i j : ℕ} (h : Spans t r i j) : i ≤ j ∧ j ≤ t.length := by
  induction h with
  | empty hi | look hi _ | done hi => exact ⟨le_rfl, hi⟩
  | set hc _ =>
    obtain ⟨hi, _⟩ := List.getElem?_eq_some_iff.mp hc
    exact ⟨by omega, by omega⟩
  | group _ ih | left _ ih | right _ ih => exact ih
  | sequence _ _ iha ihb => exact ⟨iha.1.trans ihb.1, ihb.2⟩
  | more _ _ _ ihb ihr => exact ⟨ihb.1.trans ihr.1, ihr.2⟩

def Chain (R : ℕ → ℕ → Prop) : ℕ → ℕ → ℕ → Prop
  | 0, i, j => i = j
  | n + 1, i, k => ∃ j, R i j ∧ Chain R n j k

section Chain

variable {R : ℕ → ℕ → Prop}

lemma chain_add (m n i k : ℕ) : Chain R (m + n) i k ↔ ∃ j, Chain R m i j ∧ Chain R n j k := by
  induction m generalizing i with
  | zero => simp [Chain]
  | succ m ih =>
    rw [Nat.succ_add]
    simp only [Chain, ih]
    constructor
    · rintro ⟨a, ha, b, hb, hc⟩
      exact ⟨b, ⟨a, ha, hb⟩, hc⟩
    · rintro ⟨b, ⟨a, ha, hb⟩, hc⟩
      exact ⟨a, ha, b, hb, hc⟩

lemma Chain.le {n i j : ℕ} (h : Chain R n i j) (hR : ∀ i j, R i j → i ≤ j) : i ≤ j := by
  induction n generalizing i with
  | zero => exact Nat.le_of_eq h
  | succ n ih =>
    obtain ⟨k, hk, hn⟩ := h
    exact (hR i k hk).trans (ih hn)

lemma Chain.shorten {n i j : ℕ} (h : Chain R n i j) (hR : ∀ i j, R i j → i ≤ j) :
    ∃ m ≤ j - i, Chain R m i j := by
  induction n generalizing i with
  | zero => exact ⟨0, by omega, h⟩
  | succ n ih =>
    obtain ⟨k, hk, hn⟩ := h
    obtain ⟨m, hm, hc⟩ := ih hn
    have hi := hR i k hk
    have hj := hn.le hR
    by_cases he : i = k
    · subst k
      exact ⟨m, hm, hc⟩
    · exact ⟨m + 1, by omega, k, hk, hc⟩

lemma testBit_iterate {t : List Char} {f : Positions → Positions}
    (hf : ∀ s, Positions.Within t s → ∀ j, (f s).testBit j = true ↔ ∃ i, s.testBit i = true ∧ R i j)
    (hw : ∀ s, Positions.Within t s → (f s).Within t) (n : ℕ) {s : Positions} (hs : s.Within t) (j : ℕ) :
    (f^[n] s).testBit j = true ↔ ∃ i, s.testBit i = true ∧ Chain R n i j := by
  induction n generalizing s with
  | zero => simp [Chain]
  | succ n ih =>
    rw [Function.iterate_succ_apply, ih (hw s hs)]
    constructor
    · rintro ⟨k, hk, hc⟩
      obtain ⟨i, hi, hik⟩ := (hf s hs k).mp hk
      exact ⟨i, hi, k, hik, hc⟩
    · rintro ⟨i, hi, k, hik, hc⟩
      exact ⟨k, (hf s hs k).mpr ⟨i, hi, hik⟩, hc⟩

lemma within_iterate {t : List Char} {f : Positions → Positions}
    (hw : ∀ s, Positions.Within t s → (f s).Within t) (n : ℕ) {s : Positions} (hs : s.Within t) :
    (f^[n] s).Within t := by
  induction n generalizing s with
  | zero => exact hs
  | succ n ih => exact ih (hw s hs)

lemma within_or {t : List Char} {f : Positions → Positions}
    (hw : ∀ s, Positions.Within t s → (f s).Within t) (s : Positions) (hs : s.Within t) :
    Positions.Within t (s ||| f s) := by
  intro k hk
  rw [Nat.testBit_or, Bool.or_eq_true] at hk
  exact hk.elim (hs k) (hw s hs k)

lemma testBit_or_stay {t : List Char} {f : Positions → Positions}
    (hf : ∀ s, Positions.Within t s → ∀ j, (f s).testBit j = true ↔ ∃ i, s.testBit i = true ∧ R i j)
    (s : Positions) (hs : s.Within t) (j : ℕ) :
    (s ||| f s).testBit j = true ↔ ∃ i, s.testBit i = true ∧ (i = j ∨ R i j) := by
  simp only [Nat.testBit_or, Bool.or_eq_true, hf s hs]
  constructor
  · rintro (h | ⟨i, hi, hspan⟩)
    · exact ⟨j, h, Or.inl rfl⟩
    · exact ⟨i, hi, Or.inr hspan⟩
  · rintro ⟨i, hi, rfl | hspan⟩
    · exact Or.inl hi
    · exact Or.inr ⟨i, hi, hspan⟩

lemma chain_or_stay (n i j : ℕ) :
    Chain (fun i j => i = j ∨ R i j) n i j ↔ ∃ m ≤ n, Chain R m i j := by
  induction n generalizing i with
  | zero => simp [Chain]
  | succ n ih =>
    simp only [Chain, ih]
    constructor
    · rintro ⟨k, rfl | hk, m, hm, hc⟩
      · exact ⟨m, by omega, hc⟩
      · exact ⟨m + 1, by omega, k, hk, hc⟩
    · rintro ⟨m, hm, hc⟩
      cases m with
      | zero => exact ⟨i, Or.inl rfl, 0, by omega, hc⟩
      | succ m =>
        obtain ⟨k, hk, hc⟩ := hc
        exact ⟨k, Or.inr hk, m, by omega, hc⟩

/-- Without an upper bound only the steps that move are needed, and a text is long enough for those. -/
lemma exists_chain_iff {count : Count} {length i j : ℕ} (hv : count.Valid) (hR : ∀ i j, R i j → i ≤ j)
    (hj : j ≤ length) :
    (∃ m ≤ count.most.elim length (· - count.least), Chain R m i j) ↔
      ∃ m, (∀ most ∈ count.most, count.least + m ≤ most) ∧ Chain R m i j := by
  obtain ⟨least, most⟩ := count
  cases most with
  | none =>
    constructor
    · rintro ⟨m, _, hc⟩
      exact ⟨m, by simp, hc⟩
    · rintro ⟨m, _, hc⟩
      obtain ⟨m', hm', hc'⟩ := hc.shorten hR
      exact ⟨m', by simp only [Option.elim_none]; omega, hc'⟩
  | some n =>
    have hn : least ≤ n := hv n rfl
    have hiff : ∀ m, m ≤ n - least ↔ least + m ≤ n := by omega
    simp [hiff]

end Chain

lemma spans_repetition {t : List Char} {body : Node} {count : Count} {i j : ℕ} :
    Spans t (.repetition count body) i j ↔
      i ≤ t.length ∧ ∃ n, count.least ≤ n ∧ (∀ most ∈ count.most, n ≤ most) ∧ Chain (Spans t body) n i j := by
  constructor
  · intro h
    have hi : i ≤ t.length := h.bounds.1.trans h.bounds.2
    refine ⟨hi, ?_⟩
    generalize he : Node.repetition count body = r at h
    induction h generalizing count with
    | done =>
      obtain ⟨rfl, rfl⟩ := Node.repetition.inj he
      exact ⟨0, le_rfl, fun _ _ => Nat.zero_le _, rfl⟩
    | @more _ least most i k j hm hb hr _ ih =>
      obtain ⟨rfl, rfl⟩ := Node.repetition.inj he
      obtain ⟨n, hl, hu, hc⟩ := ih (hr.bounds.1.trans hr.bounds.2) rfl
      refine ⟨n + 1, by simp only at hl ⊢; omega, ?_, k, hb, hc⟩
      intro m hmem
      have hpos := hm m hmem
      have hle := hu (m - 1) (Option.mem_map_of_mem (· - 1) hmem)
      omega
    | _ => exact Node.noConfusion he
  · rintro ⟨hi, n, hl, hu, hc⟩
    induction n generalizing i count with
    | zero =>
      obtain ⟨least, most⟩ := count
      obtain rfl : least = 0 := Nat.le_zero.mp hl
      obtain rfl : i = j := hc
      exact .done hi
    | succ n ih =>
      obtain ⟨k, hb, hc⟩ := hc
      refine .more (fun m hm => by have := hu m hm; omega) hb (ih hb.bounds.2 ?_ ?_ hc)
      · simp only
        omega
      · rintro m hm
        obtain ⟨m', hm', rfl⟩ := Option.mem_map.mp hm
        have := hu m' hm'
        omega

lemma testBit_repetition {t : List Char} {body : Node} {count : Count}
    (hb : ∀ s, Positions.Within t s → ∀ j,
      (body.reach t s).testBit j = true ↔ ∃ i, s.testBit i = true ∧ Spans t body i j)
    (hv : count.Valid) {s : Positions} (hs : s.Within t) (j : ℕ) :
    ((Node.repetition count body).reach t s).testBit j = true ↔
      ∃ i, s.testBit i = true ∧ Spans t (.repetition count body) i j := by
  have hw : ∀ s, Positions.Within t s → Positions.Within t (body.reach t s) := by
    intro s hs k hk
    obtain ⟨i, _, hspan⟩ := (hb s hs k).mp hk
    exact hspan.bounds.2
  have hforward : ∀ i j, Spans t body i j → i ≤ j := fun i j h => h.bounds.1
  have hleast := within_iterate hw count.least hs
  simp only [Node.reach, repeatExactly_eq_iterate, repeatUpTo_eq_iterate, spans_repetition]
  rw [testBit_iterate (testBit_or_stay hb) (within_or hw) _ hleast]
  constructor
  · rintro ⟨k, hk, hc⟩
    obtain ⟨i, hi, hl⟩ := (testBit_iterate hb hw count.least hs k).mp hk
    have hj := within_iterate (within_or hw) _ hleast j
      ((testBit_iterate (testBit_or_stay hb) (within_or hw) _ hleast j).mpr ⟨k, hk, hc⟩)
    obtain ⟨m, hm, hr⟩ := (exists_chain_iff hv hforward hj).mp ((chain_or_stay _ _ _).mp hc)
    exact ⟨i, hi, hs i hi, count.least + m, by omega, hm, (chain_add count.least m i j).mpr ⟨k, hl, hr⟩⟩
  · rintro ⟨i, hi, _, n, hln, hu, hc⟩
    obtain ⟨m, rfl⟩ := Nat.exists_eq_add_of_le hln
    have hj := within_iterate hw _ hs j ((testBit_iterate hb hw (count.least + m) hs j).mpr ⟨i, hi, hc⟩)
    obtain ⟨k, hl, hr⟩ := (chain_add count.least m i j).mp hc
    have hk := (testBit_iterate hb hw count.least hs k).mpr ⟨i, hi, hl⟩
    exact ⟨k, hk, (chain_or_stay _ _ _).mpr ((exists_chain_iff hv hforward hj).mpr ⟨m, hu, hr⟩)⟩

lemma testBit_reach {t : List Char} {r : Node} (hr : r.WellCounted) {s : Positions} (hs : s.Within t)
    (j : ℕ) : (r.reach t s).testBit j = true ↔ ∃ i, s.testBit i = true ∧ Spans t r i j := by
  induction r generalizing s j with
  | empty =>
    constructor
    · intro h
      exact ⟨j, h, .empty (hs j h)⟩
    · rintro ⟨i, hi, ⟨⟩⟩
      exact hi
  | set p =>
    simp only [Node.reach, Nat.testBit_shiftLeft, Nat.testBit_and, Positions.testBit_ofChars,
      Bool.and_eq_true, decide_eq_true_eq, Option.any_eq_true]
    constructor
    · rintro ⟨hj, hi, c, hc, hp⟩
      obtain ⟨i, rfl⟩ := Nat.exists_eq_add_of_le' hj
      exact ⟨i, hi, .set hc hp⟩
    · rintro ⟨i, hi, hspan⟩
      cases hspan with
      | set hc hp => exact ⟨by omega, hi, _, hc, hp⟩
  | look l =>
    simp only [Node.reach, Nat.testBit_and, Positions.testBit_between, Bool.and_eq_true, decide_eq_true_eq]
    constructor
    · rintro ⟨hj, hle, hl⟩
      exact ⟨j, hj, .look hle hl⟩
    · rintro ⟨i, hi, hspan⟩
      cases hspan with
      | look hle hl => exact ⟨hi, hle, hl⟩
  | group captures body ih =>
    rw [Node.reach, ih hr hs]
    constructor
    · rintro ⟨i, hi, hspan⟩
      exact ⟨i, hi, .group hspan⟩
    · rintro ⟨i, hi, hspan⟩
      cases hspan with
      | group hspan => exact ⟨i, hi, hspan⟩
  | sequence a b iha ihb =>
    have hw : (a.reach t s).Within t := by
      intro k hk
      obtain ⟨i, _, hspan⟩ := (iha hr.1 hs k).mp hk
      exact hspan.bounds.2
    rw [Node.reach, ihb hr.2 hw]
    constructor
    · rintro ⟨k, hk, hb⟩
      obtain ⟨i, hi, ha⟩ := (iha hr.1 hs k).mp hk
      exact ⟨i, hi, .sequence ha hb⟩
    · rintro ⟨i, hi, hspan⟩
      cases hspan with
      | @sequence _ _ _ k _ ha hb => exact ⟨k, (iha hr.1 hs k).mpr ⟨i, hi, ha⟩, hb⟩
  | choice a b iha ihb =>
    simp only [Node.reach, Nat.testBit_or, Bool.or_eq_true, iha hr.1 hs, ihb hr.2 hs]
    constructor
    · rintro (⟨i, hi, ha⟩ | ⟨i, hi, hb⟩)
      · exact ⟨i, hi, .left ha⟩
      · exact ⟨i, hi, .right hb⟩
    · rintro ⟨i, hi, hspan⟩
      cases hspan with
      | left ha => exact Or.inl ⟨i, hi, ha⟩
      | right hb => exact Or.inr ⟨i, hi, hb⟩
  | repetition count body ih =>
    exact testBit_repetition (fun s hs j => ih hr.2 hs j) hr.1 hs j

lemma occursIn_iff {r : Node} (hr : r.WellCounted) (text : String) :
    r.occursIn text = true ↔ ∃ i j, Spans text.toList r i j := by
  have hs : Positions.Within text.toList (1 <<< (text.toList.length + 1) - 1) := by
    intro i hi
    simp only [Nat.one_shiftLeft, Nat.testBit_two_pow_sub_one, decide_eq_true_eq] at hi
    omega
  simp only [Node.occursIn, bne_iff_ne]
  constructor
  · intro h
    obtain ⟨j, hj⟩ := Nat.exists_testBit_of_ne_zero h
    obtain ⟨i, _, hspan⟩ := (testBit_reach hr hs j).mp hj
    exact ⟨i, j, hspan⟩
  · rintro ⟨i, j, hspan⟩ h
    have hi : (1 <<< (text.toList.length + 1) - 1).testBit i = true := by
      have := hspan.bounds
      simp only [Nat.one_shiftLeft, Nat.testBit_two_pow_sub_one, decide_eq_true_eq]
      omega
    have hj := (testBit_reach hr hs j).mpr ⟨i, hi, hspan⟩
    rw [h, Nat.zero_testBit] at hj
    exact Bool.noConfusion hj

end DiscountTables.Pattern
