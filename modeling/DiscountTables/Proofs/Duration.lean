import DiscountTables.Document.Cell
import Mathlib.Tactic

/-!
Durations and their texts. The text of a duration gives its seconds back. Its parts each carry the sign of the
duration, so that below zero it is hours, two digits of minutes and two digits of seconds for whole hours only.
-/

namespace DiscountTables.Document

open Calendar Number

def decimal? (digits : List Char) : Option ℕ :=
  if !digits.isEmpty && digits.all Char.isDigit then some (Nat.ofDigitChars 10 digits 0) else none

def signed? : List Char → Option ℤ
  | '-' :: digits => (decimal? digits).map fun n : ℕ => -(n : ℤ)
  | digits => (decimal? digits).map fun n : ℕ => (n : ℤ)

def clockSeconds? (text : String) : Option ℤ :=
  match text.toList.splitOn ':' with
  | [hours, minutes, seconds] => do
    return 3600 * (← signed? hours) + 60 * (← signed? minutes) + (← signed? seconds)
  | _ => none

def IsSixtieth (part : List Char) : Prop := part.length = 2 ∧ ∃ n < 60, decimal? part = some n

def IsClockText (text : String) : Prop :=
  ∃ hours minutes seconds, text.toList.splitOn ':' = [hours, minutes, seconds] ∧
    (∃ n, signed? hours = some n) ∧ IsSixtieth minutes ∧ IsSixtieth seconds

lemma decimal?_eq_some_iff {digits : List Char} {n : ℕ} : decimal? digits = some n ↔
    digits ≠ [] ∧ (∀ c ∈ digits, c.isDigit) ∧ Nat.ofDigitChars 10 digits 0 = n := by
  rw [decimal?, Option.ite_none_right_eq_some, Bool.and_eq_true, Bool.not_eq_true', List.isEmpty_eq_false_iff,
    List.all_eq_true, Option.some.injEq, and_assoc]

lemma decimal?_zeros (k n : ℕ) : decimal? (List.replicate k '0' ++ Nat.toDigits 10 n) = some n := by
  refine decimal?_eq_some_iff.mpr ⟨List.append_ne_nil_of_right_ne_nil _ Nat.toDigits_ne_nil, ?_, ?_⟩
  · intro c hc
    rcases List.mem_append.mp hc with hzero | hdigit
    · rw [List.eq_of_mem_replicate hzero]
      rfl
    · exact Nat.isDigit_of_mem_toDigits (by decide) (by decide) hdigit
  · rw [Nat.ofDigitChars_append, Nat.ofDigitChars_replicate_zero, Nat.mul_zero, Nat.ofDigitChars_ten_toDigits]

lemma decimal?_padded (width n : ℕ) : decimal? (padded width n).toList = some n := by
  rw [padded, String.toList_ofList, decimal?_zeros]

lemma isDigit_of_decimal? {digits : List Char} {n : ℕ} (h : decimal? digits = some n) {c : Char} (hc : c ∈ digits) :
    c.isDigit :=
  (decimal?_eq_some_iff.mp h).2.1 c hc

lemma signed?_of_decimal? {digits : List Char} {n : ℕ} (h : decimal? digits = some n) :
    signed? digits = some (n : ℤ) := by
  rw [signed?.eq_2, h, Option.map_some]
  rintro rest rfl
  exact absurd (isDigit_of_decimal? h List.mem_cons_self) (by decide)

lemma signed?_negative {digits : List Char} {n : ℕ} (h : decimal? digits = some n) :
    signed? ('-' :: digits) = some (-(n : ℤ)) := by
  rw [signed?, h, Option.map_some]

lemma notMem_of_signed? {part : List Char} {n : ℤ} (h : signed? part = some n) : ':' ∉ part := by
  have hcolon : ∀ {digits : List Char} {m : ℕ}, decimal? digits = some m → ':' ∉ digits := by
    intro digits m hm hc
    exact absurd (isDigit_of_decimal? hm hc) (by decide)
  rw [signed?.eq_def] at h
  split at h
  · obtain ⟨m, hm, -⟩ := Option.map_eq_some_iff.mp h
    simpa using hcolon hm
  · obtain ⟨m, hm, -⟩ := Option.map_eq_some_iff.mp h
    exact hcolon hm

lemma signed?_toString (n : ℤ) : signed? (toString n).toList = some n := by
  have hnatural : ∀ m : ℕ, decimal? m.repr.toList = some m := fun m => by
    rw [Nat.toList_repr]
    exact decimal?_zeros 0 m
  rw [Int.toString_eq_repr, Int.repr_eq_if]
  split
  · rename_i hn
    rw [signed?_of_decimal? (hnatural _), Int.toNat_of_nonneg hn]
  · rename_i hn
    rw [String.toList_append]
    refine (signed?_negative (hnatural _)).trans (congrArg some ?_)
    omega

lemma signed?_twoDigits (n : ℤ) : signed? (twoDigits n).toList = some n := by
  rw [twoDigits]
  split
  · rw [String.toList_append]
    refine (signed?_negative (decimal?_padded _ _)).trans (congrArg some ?_)
    omega
  · rw [signed?_of_decimal? (decimal?_padded _ _)]
    refine congrArg some ?_
    omega

lemma length_padded {n : ℕ} (h : n < 100) : (padded 2 n).toList.length = 2 := by
  have hmost : (Nat.toDigits 10 n).length ≤ 2 := (Nat.length_toDigits_le_iff (by decide) (by decide)).mpr h
  rw [padded, String.toList_ofList, List.length_append, List.length_replicate]
  omega

lemma isSixtieth_twoDigits_iff {n : ℤ} (h : n.natAbs < 60) : IsSixtieth (twoDigits n).toList ↔ 0 ≤ n := by
  rw [twoDigits]
  split
  · rename_i hn
    refine iff_of_false ?_ (Int.not_le.mpr hn)
    rintro ⟨-, m, -, hm⟩
    rw [String.toList_append] at hm
    exact absurd (isDigit_of_decimal? hm List.mem_cons_self) (by decide)
  · rename_i hn
    exact iff_of_true ⟨length_padded (by omega), _, h, decimal?_padded _ _⟩ (Int.not_lt.mp hn)

lemma parts_natCast (m : ℕ) : (m : ℤ).tdiv 3600 = (m / 3600 : ℕ) ∧ ((m : ℤ).tdiv 60).tmod 60 = (m / 60 % 60 : ℕ) ∧
    (m : ℤ).tmod 60 = (m % 60 : ℕ) := by
  refine ⟨(Int.ofNat_tdiv m 3600).symm, ?_, (Int.ofNat_tmod m 60).symm⟩
  have hminutes : (m : ℤ).tdiv 60 = (m / 60 : ℕ) := (Int.ofNat_tdiv m 60).symm
  rw [hminutes]
  exact (Int.ofNat_tmod (m / 60) 60).symm

section Parts

variable (n : ℤ)

lemma parts_sum : 3600 * n.tdiv 3600 + 60 * (n.tdiv 60).tmod 60 + n.tmod 60 = n := by
  obtain ⟨m, rfl | rfl⟩ := n.eq_nat_or_neg <;> simp only [Int.neg_tdiv, Int.neg_tmod, parts_natCast] <;> omega

lemma natAbs_parts_lt : ((n.tdiv 60).tmod 60).natAbs < 60 ∧ (n.tmod 60).natAbs < 60 := by
  obtain ⟨m, rfl | rfl⟩ := n.eq_nat_or_neg <;> simp only [Int.neg_tdiv, Int.neg_tmod, parts_natCast] <;> omega

lemma parts_nonneg_iff : 0 ≤ (n.tdiv 60).tmod 60 ∧ 0 ≤ n.tmod 60 ↔ 0 ≤ n ∨ 3600 ∣ n := by
  obtain ⟨m, rfl | rfl⟩ := n.eq_nat_or_neg <;> simp only [Int.neg_tdiv, Int.neg_tmod, parts_natCast] <;> omega

lemma splitOn_durationText : (durationText n).toList.splitOn ':' =
    [(toString (n.tdiv 3600)).toList, (twoDigits ((n.tdiv 60).tmod 60)).toList, (twoDigits (n.tmod 60)).toList] := by
  have hjoined : (durationText n).toList = [':'].intercalate
      [(toString (n.tdiv 3600)).toList, (twoDigits ((n.tdiv 60).tmod 60)).toList, (twoDigits (n.tmod 60)).toList] := by
    simp [durationText, List.intercalate]
  rw [hjoined]
  refine List.splitOn_intercalate ':' ?_ (List.cons_ne_nil _ _)
  intro part hpart
  rcases List.mem_cons.mp hpart with rfl | hpart
  · exact notMem_of_signed? (signed?_toString _)
  rcases List.mem_pair.mp hpart with rfl | rfl
  · exact notMem_of_signed? (signed?_twoDigits _)
  · exact notMem_of_signed? (signed?_twoDigits _)

lemma clockSeconds?_durationText : clockSeconds? (durationText n) = some n := by
  rw [clockSeconds?, splitOn_durationText]
  simp only [signed?_toString, signed?_twoDigits, Option.bind_eq_bind, Option.bind_some, Option.pure_def, parts_sum]

lemma isClockText_durationText_iff : IsClockText (durationText n) ↔ 0 ≤ n ∨ 3600 ∣ n := by
  obtain ⟨hminutes, hseconds⟩ := natAbs_parts_lt n
  rw [← parts_nonneg_iff, ← isSixtieth_twoDigits_iff hminutes, ← isSixtieth_twoDigits_iff hseconds, IsClockText,
    splitOn_durationText]
  constructor
  · rintro ⟨_, _, _, hparts, -, hm, hs⟩
    cases hparts
    exact ⟨hm, hs⟩
  · rintro ⟨hm, hs⟩
    exact ⟨_, _, _, rfl, ⟨_, signed?_toString _⟩, hm, hs⟩

end Parts

lemma durationText_injective : Function.Injective durationText := by
  intro m n h
  have hseconds := congrArg clockSeconds? h
  rw [clockSeconds?_durationText, clockSeconds?_durationText] at hseconds
  exact Option.some.inj hseconds

/-- The text of a duration reads back as its seconds, and is of the form `h:mm:ss` if the duration is not negative or
a number of whole hours. -/
theorem duration_display (from1904 : Bool) (x : Double) :
    clockSeconds? ((Cell.duration x).display from1904) = some (durationSeconds x) ∧
    (IsClockText ((Cell.duration x).display from1904) ↔ 0 ≤ durationSeconds x ∨ 3600 ∣ durationSeconds x) ∧
    ∀ y, (Cell.duration x).display from1904 = (Cell.duration y).display from1904 ↔
      durationSeconds x = durationSeconds y :=
  ⟨clockSeconds?_durationText _, isClockText_durationText_iff _, fun _ => durationText_injective.eq_iff⟩

theorem duration_display_negative : ∃ x, Cell.ofStored .duration "-1.0125" = .ok (.duration x) ∧
    (Cell.duration x).display false = "-24:-18:00" ∧ durationSeconds x = -87480 ∧
    ¬ IsClockText ((Cell.duration x).display false) := by
  refine ⟨(readDouble? "-1.0125").getD .nan, by decide +kernel, by decide +kernel, by decide +kernel, ?_⟩
  rw [Cell.display, isClockText_durationText_iff]
  decide +kernel

end DiscountTables.Document
