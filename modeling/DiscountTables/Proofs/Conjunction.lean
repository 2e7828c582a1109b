import DiscountTables.Rule
import Mathlib.Tactic

/-!
Reading a conjunction back from its text. Values stand between quotes as they are, so that a value with quotes in it
could be taken for several predicates; without such values the text tells the predicates.
-/

namespace DiscountTables

open Template

namespace Predicate

def operator : Predicate → Operator
  | equals .. => .equal
  | differs .. => .notEqual
  | fits .. => .fits

def value : Predicate → String
  | equals _ value | differs _ value => value
  | fits _ pattern => pattern.source

lemma eq_of_parts {p q : Predicate} (hf : p.field = q.field) (ho : p.operator = q.operator)
    (hv : p.value = q.value) : p = q := by
  cases p <;> cases q <;> cases ho <;> cases hf
  · exact congrArg _ hv
  · exact congrArg _ hv
  · exact congrArg _ (Pattern.eq_of_source_eq hv)

def opening (field : RequestField) (op : Operator) : List Char := field.name.toList ++ ' ' :: op.symbol.toList ++ [' ']

def joint (field : RequestField) (op : Operator) : List Char := " AND ".toList ++ opening field op

def joined (predicates : List Predicate) : List Char :=
  predicates.flatMap fun p => joint p.field p.operator ++ '"' :: p.value.toList ++ ['"']

/-- Some part of the text, such as `" AND state == "`, reads like the end of one predicate and the beginning of
another. -/
def HoldsJoint (text : List Char) : Prop := ∃ field op, '"' :: joint field op ++ ['"'] <:+: text

structure Plain (value : List Char) : Prop where
  unjoined : ¬ HoldsJoint value
  last : value.getLast? ≠ some ' '

lemma toList_text (p : Predicate) :
    p.text.toList = opening p.field p.operator ++ '"' :: p.value.toList ++ ['"'] := by
  cases p <;> simp [text, opening, operator, value, Predicate.field, Operator.symbol]

lemma joined_cons (p : Predicate) (rest : List Predicate) : joined (p :: rest) =
    " AND ".toList ++ (opening p.field p.operator ++ '"' :: (p.value.toList ++ '"' :: joined rest)) := by
  simp [joined, joint]

lemma joined_eq (p : Predicate) (rest : List Predicate) :
    joined (p :: rest) = " AND ".toList ++ (conjunctionText (p :: rest)).toList := by
  induction rest generalizing p with
  | nil => simp [joined, joint, conjunctionText, toList_text]
  | cons q rest ih =>
    rw [joined_cons, ih, conjunctionText, conjunctionText, List.map_cons, List.map_cons, List.map_cons,
      String.intercalate_cons_cons, String.toList_append, String.toList_append, toList_text]
    simp

lemma quote_notMem_joint (field : RequestField) (op : Operator) : '"' ∉ joint field op := by
  cases field <;> cases op <;> decide

lemma getLast?_joint (field : RequestField) (op : Operator) : (joint field op).getLast? = some ' ' := by
  rw [joint, opening, ← List.append_assoc, List.getLast?_concat]

lemma opening_inj {f g : RequestField} {o o' : Operator} {x y : List Char}
    (h : opening f o ++ x = opening g o' ++ y) : f = g ∧ o = o' ∧ x = y := by
  -- no opening goes on as another one
  have hcode : ∀ f g o o', opening f o <+: opening g o' → f = g ∧ o = o' := by
    intro f g o o'
    cases f <;> cases g <;> cases o <;> cases o' <;> decide
  have hsame : f = g ∧ o = o' := by
    rcases List.prefix_or_prefix_of_prefix (List.prefix_append _ x) (h ▸ List.prefix_append _ y) with hp | hp
    · exact hcode _ _ _ _ hp
    · exact (hcode _ _ _ _ hp).imp Eq.symm Eq.symm
  obtain ⟨rfl, rfl⟩ := hsame
  exact ⟨rfl, rfl, List.append_cancel_left h⟩

lemma append_cons_cases {q : Char} {v w x y : List Char} (h : v ++ q :: x = w ++ q :: y) :
    v = w ∧ x = y ∨ (∃ a, w = v ++ q :: a ∧ x = a ++ q :: y) ∨ ∃ a, v = w ++ q :: a ∧ y = a ++ q :: x := by
  rcases List.append_eq_append_iff.mp h with ⟨a, rfl, ha⟩ | ⟨a, rfl, ha⟩
  · rcases List.cons_eq_append_iff.mp ha with ⟨rfl, hx⟩ | ⟨a, rfl, rfl⟩
    · exact .inl ⟨by simp, (List.cons.inj hx).2.symm⟩
    · exact .inr (.inl ⟨a, rfl, rfl⟩)
  · rcases List.cons_eq_append_iff.mp ha with ⟨rfl, hx⟩ | ⟨a, rfl, rfl⟩
    · exact .inl ⟨by simp, (List.cons.inj hx).2⟩
    · exact .inr (.inr ⟨a, rfl, rfl⟩)

lemma exists_of_append_cons {q : Char} {pre x y u : List Char} (hpre : q ∉ pre) (h : u ++ q :: x = pre ++ y) :
    ∃ a, y = a ++ q :: x := by
  rcases List.append_eq_append_iff.mp h with ⟨a, rfl, ha⟩ | ⟨a, -, ha⟩
  · rcases List.cons_eq_append_iff.mp ha with ⟨-, hy⟩ | ⟨b, rfl, -⟩
    · exact ⟨[], hy⟩
    · exact absurd (by simp) hpre
  · exact ⟨a, ha⟩

lemma HoldsJoint.of_enclosed {pre text post : List Char} (hpre : '"' ∉ pre) (hpost : '"' ∉ post)
    (h : HoldsJoint (pre ++ text ++ post)) : HoldsJoint text := by
  obtain ⟨field, op, u, v, h⟩ := h
  obtain ⟨a, ha⟩ : ∃ a, text ++ post = a ++ '"' :: (joint field op ++ '"' :: v) :=
    exists_of_append_cons (u := u) hpre (by simpa using h)
  have hreverse : v.reverse ++ '"' :: ((joint field op).reverse ++ '"' :: a.reverse) =
      post.reverse ++ text.reverse := by
    rw [← List.reverse_append, ha]
    simp
  obtain ⟨b, hb⟩ := exists_of_append_cons (by simpa using hpost) hreverse
  refine ⟨field, op, a, b.reverse, ?_⟩
  rw [← List.reverse_reverse text, hb]
  simp

lemma Plain.joined_ne {v a y : List Char} (h : Plain (v ++ '"' :: a)) (ps : List Predicate) :
    joined ps ≠ a ++ '"' :: y := by
  intro heq
  cases ps with
  | nil => simp [joined] at heq
  | cons p rest =>
    have hp : joint p.field p.operator ++ '"' :: (p.value.toList ++ '"' :: joined rest) = a ++ '"' :: y := by
      rw [← heq, joined_cons, joint, List.append_assoc]
    -- the value would end like a joint, hold one, or end within one
    rcases append_cons_cases hp with ⟨rfl, -⟩ | ⟨b, rfl, -⟩ | ⟨b, hb, -⟩
    · have hlast := getLast?_joint p.field p.operator
      exact h.last (by rw [List.getLast?_append, List.getLast?_cons, hlast]; rfl)
    · exact h.unjoined ⟨p.field, p.operator, v, b, by simp⟩
    · exact quote_notMem_joint p.field p.operator (hb ▸ by simp)

lemma joined_inj {ps qs : List Predicate} (hp : ∀ p ∈ ps, Plain p.value.toList) (hq : ∀ q ∈ qs, Plain q.value.toList)
    (h : joined ps = joined qs) : ps = qs := by
  induction ps generalizing qs with
  | nil =>
    cases qs with
    | nil => rfl
    | cons q qs => simp [joined] at h
  | cons p ps ih =>
    cases qs with
    | nil => simp [joined] at h
    | cons q qs =>
      obtain ⟨hpfirst, hprest⟩ := List.forall_mem_cons.mp hp
      obtain ⟨hqfirst, hqrest⟩ := List.forall_mem_cons.mp hq
      rw [joined_cons, joined_cons] at h
      obtain ⟨hfield, hoperator, hvalues⟩ := opening_inj (List.append_cancel_left h)
      rcases append_cons_cases (List.cons.inj hvalues).2 with ⟨hvalue, hrest⟩ | ⟨a, ha, hrest⟩ | ⟨a, ha, hrest⟩
      · rw [eq_of_parts hfield hoperator (String.toList_inj.mp hvalue), ih hprest hqrest hrest]
      · exact absurd hrest ((ha ▸ hqfirst).joined_ne ps)
      · exact absurd hrest ((ha ▸ hpfirst).joined_ne qs)

theorem eq_of_conjunctionText_eq {ps qs : List Predicate} (hp : ∀ p ∈ ps, Plain p.value.toList)
    (hq : ∀ q ∈ qs, Plain q.value.toList) (h : conjunctionText ps = conjunctionText qs) : ps = qs := by
  refine joined_inj hp hq ?_
  have hne : ∀ (p : Predicate) (rest : List Predicate), conjunctionText (p :: rest) ≠ conjunctionText [] := by
    intro p rest hnil
    have hjoined := joined_eq p rest
    rw [hnil, joined_cons] at hjoined
    have hlength := congrArg List.length hjoined
    simp [conjunctionText, opening] at hlength
  cases ps with
  | nil =>
    cases qs with
    | nil => rfl
    | cons q qs => exact absurd h.symm (hne q qs)
  | cons p ps =>
    cases qs with
    | nil => exact absurd h (hne p ps)
    | cons q qs => rw [joined_eq, joined_eq, h]

end Predicate

end DiscountTables
