import Mathlib.Data.String.Basic
import Mathlib.Tactic

namespace DiscountTables.Text

open String

def bytes (s : String) : List UInt8 := s.toUTF8.data.toList

lemma bytes_eq (s : String) : bytes s = s.toList.flatMap utf8EncodeChar := by
  rw [bytes, toUTF8, ← String.utf8Encode_toList]
  simp [List.utf8Encode]

lemma ofNat_lt_iff {m n : ℕ} (hm : m < 256) (hn : n < 256) : UInt8.ofNat m < UInt8.ofNat n ↔ m < n := by
  rw [UInt8.lt_iff_toNat_lt, UInt8.toNat_ofNat', UInt8.toNat_ofNat', Nat.mod_eq_of_lt hm, Nat.mod_eq_of_lt hn]

lemma ofNat_inj {m n : ℕ} (hm : m < 256) (hn : n < 256) : UInt8.ofNat m = UInt8.ofNat n ↔ m = n := by
  rw [← UInt8.toNat_inj, UInt8.toNat_ofNat', UInt8.toNat_ofNat', Nat.mod_eq_of_lt hm, Nat.mod_eq_of_lt hn]

lemma encode_append_lt {c d : Char} (h : c < d) (s t : List UInt8) :
    utf8EncodeChar c ++ s < utf8EncodeChar d ++ t := by
  have hlt : c.val.toNat < d.val.toNat := h
  have hd : d.val.toNat < 0x110000 := by
    have hvalid := d.valid
    simp only [UInt32.isValidChar, Nat.isValidChar] at hvalid
    omega
  simp only [utf8EncodeChar]
  generalize c.val.toNat = m, d.val.toNat = n at hlt hd
  -- Every byte is a digit to the base 64 of what is left without the bytes after it.
  have hsecond (k : ℕ) : k / 4096 = k / 64 / 64 := by omega
  have hthird (k : ℕ) : k / 262144 = k / 64 / 64 / 64 := by omega
  simp only [hsecond, hthird]
  split_ifs <;>
    simp (disch := omega) only [List.cons_append, List.nil_append, List.cons_lt_cons_iff, ofNat_lt_iff, ofNat_inj] <;>
    omega

lemma utf8EncodeChar_ne_nil (c : Char) : utf8EncodeChar c ≠ [] := by
  simp only [utf8EncodeChar]
  split_ifs <;> simp

lemma flatMap_encode_lt {s t : List Char} (h : s < t) : s.flatMap utf8EncodeChar < t.flatMap utf8EncodeChar := by
  induction s generalizing t with
  | nil =>
    cases t with
    | nil => exact absurd h (List.not_lt_nil _)
    | cons d t =>
      obtain ⟨x, xs, hd⟩ := List.exists_cons_of_ne_nil (utf8EncodeChar_ne_nil d)
      rw [List.flatMap_nil, List.flatMap_cons, hd]
      exact List.nil_lt_cons x _
  | cons c s ih =>
    cases t with
    | nil => exact absurd h (List.not_lt_nil _)
    | cons d t =>
      rw [List.flatMap_cons, List.flatMap_cons]
      rcases List.cons_lt_cons_iff.mp h with hlt | ⟨rfl, htail⟩
      · exact encode_append_lt hlt _ _
      · exact List.append_left_lt (ih htail)

lemma bytes_lt {a b : String} (h : a < b) : bytes a < bytes b := by
  rw [bytes_eq, bytes_eq]
  exact flatMap_encode_lt (String.lt_iff_toList_lt.mp h)

end DiscountTables.Text
