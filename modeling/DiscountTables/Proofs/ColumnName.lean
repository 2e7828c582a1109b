import DiscountTables.Sheet.Basic
import Mathlib.Data.List.Shortlex
import Mathlib.Tactic

/-!
Column names are numerals in bijective base 26. Every column has one, every word of capital letters is the name of
one column, and further to the right names get longer, or come later in the alphabet.
-/

namespace DiscountTables.Sheet

def letterValue (c : Char) : ℕ := c.toNat - 'A'.toNat + 1

def numeralValue (letters : List Char) : ℕ := letters.foldl (fun value c => 26 * value + letterValue c) 0

def IsCapital (c : Char) : Prop := 'A' ≤ c ∧ c ≤ 'Z'

structure IsColumnName (name : String) : Prop where
  ne_empty : name ≠ ""
  capital : ∀ c ∈ name.toList, IsCapital c

lemma toNat_columnDigit (n : ℕ) : (columnDigit n).toNat = 65 + n % 26 := by
  have hvalid : (65 + n % 26).isValidChar := Or.inl (by omega)
  rw [columnDigit, Char.ofNat, dif_pos hvalid]
  rfl

lemma isCapital_iff {c : Char} : IsCapital c ↔ 65 ≤ c.toNat ∧ c.toNat ≤ 90 := Iff.rfl

lemma isCapital_columnDigit (n : ℕ) : IsCapital (columnDigit n) := by
  rw [isCapital_iff, toNat_columnDigit]
  omega

lemma letterValue_columnDigit (n : ℕ) : letterValue (columnDigit n) = n % 26 + 1 := by
  have hA : 'A'.toNat = 65 := rfl
  rw [letterValue, toNat_columnDigit, hA]
  omega

lemma numeralValue_concat (letters : List Char) (c : Char) :
    numeralValue (letters ++ [c]) = 26 * numeralValue letters + letterValue c := by
  rw [numeralValue, List.foldl_append]
  rfl

lemma columnLetters_zero (tail : List Char) : columnLetters 0 tail = tail := by
  rw [columnLetters, dif_pos rfl]

lemma columnLetters_append (n : ℕ) (tail : List Char) : columnLetters n tail = columnLetters n [] ++ tail := by
  induction n using Nat.strong_induction_on generalizing tail with
  | _ n ih =>
    cases n with
    | zero => rw [columnLetters_zero, columnLetters_zero, List.nil_append]
    | succ n =>
      have hlt : n / 26 < n + 1 := by omega
      simp only [columnLetters.eq_def (n + 1), dif_neg n.succ_ne_zero, Nat.add_sub_cancel]
      rw [ih _ hlt, ih _ hlt [columnDigit n], List.append_assoc, List.singleton_append]

lemma columnLetters_succ (n : ℕ) : columnLetters (n + 1) [] = columnLetters (n / 26) [] ++ [columnDigit n] := by
  rw [columnLetters, dif_neg n.succ_ne_zero, columnLetters_append]
  rfl

lemma numeralValue_columnLetters (n : ℕ) : numeralValue (columnLetters n []) = n := by
  induction n using Nat.strong_induction_on with
  | _ n ih =>
    cases n with
    | zero =>
      rw [columnLetters_zero]
      rfl
    | succ n =>
      rw [columnLetters_succ, numeralValue_concat, ih _ (by omega), letterValue_columnDigit]
      omega

lemma isCapital_of_mem_columnLetters {n : ℕ} {c : Char} (h : c ∈ columnLetters n []) : IsCapital c := by
  induction n using Nat.strong_induction_on with
  | _ n ih =>
    cases n with
    | zero => simp [columnLetters_zero] at h
    | succ n =>
      rw [columnLetters_succ, List.mem_append, List.mem_singleton] at h
      rcases h with h | rfl
      · exact ih _ (by omega) h
      · exact isCapital_columnDigit n

lemma columnDigit_of_isCapital {c : Char} (hc : IsCapital c) (value : ℕ) :
    columnDigit (26 * value + (c.toNat - 65)) = c := by
  obtain ⟨hleast, hgreatest⟩ := isCapital_iff.mp hc
  refine Char.toNat_inj.mp ?_
  rw [toNat_columnDigit]
  omega

lemma columnLetters_numeralValue {letters : List Char} (h : ∀ c ∈ letters, IsCapital c) :
    columnLetters (numeralValue letters) [] = letters := by
  -- letters are taken off at the end, where the division does
  induction letters using List.reverseRecOn with
  | nil => exact columnLetters_zero []
  | append_singleton letters c ih =>
    have hc : IsCapital c := h c (by simp)
    have hletters : ∀ d ∈ letters, IsCapital d := fun d hd => h d (List.mem_append_left _ hd)
    obtain ⟨hleast, hgreatest⟩ := isCapital_iff.mp hc
    have hquotient : (26 * numeralValue letters + (c.toNat - 65)) / 26 = numeralValue letters := by omega
    calc
      columnLetters (numeralValue (letters ++ [c])) []
        = columnLetters (26 * numeralValue letters + (c.toNat - 65) + 1) [] := by rw [numeralValue_concat]; rfl
      _ = columnLetters (numeralValue letters) [] ++ [c] := by
        rw [columnLetters_succ, hquotient, columnDigit_of_isCapital hc]
      _ = letters ++ [c] := by rw [ih hletters]

lemma lex_append {l m : List Char} (h : List.Lex (· < ·) l m) (hlength : l.length = m.length) (s t : List Char) :
    List.Lex (· < ·) (l ++ s) (m ++ t) := by
  induction h with
  | nil => cases hlength
  | cons _ ih => exact .cons (ih (Nat.succ.inj hlength))
  | rel h => exact .rel h

lemma shortlex_concat {l m : List Char} (h : List.Shortlex (· < ·) l m) (c d : Char) :
    List.Shortlex (· < ·) (l ++ [c]) (m ++ [d]) := by
  rcases List.shortlex_def.mp h with hlength | ⟨hlength, hlex⟩
  · exact .of_length_lt (by simpa using hlength)
  · exact .of_lex (by simpa using hlength) (lex_append hlex hlength _ _)

lemma shortlex_columnLetters {m n : ℕ} (h : m < n) :
    List.Shortlex (· < ·) (columnLetters m []) (columnLetters n []) := by
  induction n using Nat.strong_induction_on generalizing m with
  | _ n ih =>
    obtain ⟨n, rfl⟩ := Nat.exists_eq_succ_of_ne_zero (Nat.ne_zero_of_lt h)
    rw [Nat.succ_eq_add_one, columnLetters_succ]
    cases m with
    | zero =>
      rw [columnLetters_zero]
      exact .of_length_lt (by simp)
    | succ m =>
      rw [columnLetters_succ]
      rcases Nat.lt_or_ge (m / 26) (n / 26) with hquotient | hquotient
      · exact shortlex_concat (ih _ (by omega) hquotient) _ _
      · -- the same letters in front, so that the last ones decide
        have heq : m / 26 = n / 26 := by omega
        rw [heq]
        refine List.Shortlex.append_left ((List.shortlex_singleton_iff _ _).mpr ?_) _
        have hdigit : (columnDigit m).toNat < (columnDigit n).toNat := by
          rw [toNat_columnDigit, toNat_columnDigit]
          omega
        exact hdigit

lemma isColumnName_columnName (index : ℕ) : IsColumnName (columnName index) := by
  constructor
  · intro hempty
    have hletters := congrArg String.toList hempty
    rw [columnName, String.toList_ofList, columnLetters_succ] at hletters
    simp at hletters
  · intro c hc
    rw [columnName, String.toList_ofList] at hc
    exact isCapital_of_mem_columnLetters hc

lemma numeralValue_columnName (index : ℕ) : numeralValue (columnName index).toList = index + 1 := by
  rw [columnName, String.toList_ofList, numeralValue_columnLetters]

lemma IsColumnName.numeralValue_pos {name : String} (h : IsColumnName name) : 0 < numeralValue name.toList := by
  have hne : name.toList ≠ [] := fun hnil => h.ne_empty (String.toList_injective hnil)
  rw [← List.dropLast_append_getLast hne, numeralValue_concat, letterValue]
  omega

lemma IsColumnName.columnName_numeralValue {name : String} (h : IsColumnName name) :
    columnName (numeralValue name.toList - 1) = name := by
  rw [columnName, Nat.sub_add_cancel h.numeralValue_pos, columnLetters_numeralValue h.capital, String.ofList_toList]

lemma shortlex_columnName_iff {i j : ℕ} :
    List.Shortlex (· < ·) (columnName i).toList (columnName j).toList ↔ i < j := by
  simp only [columnName, String.toList_ofList]
  constructor
  · intro h
    by_contra hle
    rcases Nat.eq_or_lt_of_le (Nat.not_lt.mp hle) with rfl | hlt
    · exact Std.Irrefl.irrefl _ h
    · exact Std.Asymm.asymm _ _ h (shortlex_columnLetters (Nat.succ_lt_succ hlt))
  · intro h
    exact shortlex_columnLetters (Nat.succ_lt_succ h)

/-- Columns and column names correspond to each other, in their orders. -/
theorem columnName_correspondence :
    (∀ index, IsColumnName (columnName index) ∧ numeralValue (columnName index).toList = index + 1) ∧
    (∀ name, columnName (numeralValue name.toList - 1) = name ↔ IsColumnName name) ∧
    Function.Injective columnName ∧
    ∀ i j, i < j ↔ (columnName i).length < (columnName j).length ∨
      (columnName i).length = (columnName j).length ∧ columnName i < columnName j := by
  refine ⟨fun index => ⟨isColumnName_columnName index, numeralValue_columnName index⟩, ?_, ?_, ?_⟩
  · intro name
    constructor
    · intro h
      rw [← h]
      exact isColumnName_columnName _
    · exact IsColumnName.columnName_numeralValue
  · intro i j h
    have hvalue := congrArg (fun name => numeralValue name.toList) h
    simpa only [numeralValue_columnName, Nat.add_right_cancel_iff] using hvalue
  · intro i j
    rw [← shortlex_columnName_iff, List.shortlex_def]
    rfl

example : columnName 701 = "ZZ" ∧ columnName 702 = "AAA" := by decide +kernel

end DiscountTables.Sheet
