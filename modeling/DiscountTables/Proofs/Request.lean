import DiscountTables.Request
import Mathlib.Tactic.Lemma

namespace DiscountTables

open Text

lemma eqIgnoringCase_left {a b c : String} (ha : eqIgnoringCase a c = true) (hb : eqIgnoringCase b c = true) :
    eqIgnoringCase a b = true := by
  simp only [eqIgnoringCase, beq_iff_eq] at *
  rw [ha, hb]

section Named

variable {α : Type} {fields : List α} {called : α → String} {field : α} {name : String}

lemma find?_called_eq_some_iff (hall : ∀ f, f ∈ fields)
    (hapart : ∀ f g, eqIgnoringCase (called f) (called g) = true → f = g) :
    fields.find? (fun f => eqIgnoringCase (called f) name) = some field ↔
      eqIgnoringCase (called field) name = true := by
  constructor
  · intro h
    simpa using List.find?_some h
  · intro h
    cases hfound : fields.find? fun f => eqIgnoringCase (called f) name with
    | none => exact absurd h (List.find?_eq_none.mp hfound field (hall field))
    | some other =>
      have hother : eqIgnoringCase (called other) name = true := by simpa using List.find?_some hfound
      rw [hapart other field (eqIgnoringCase_left hother h)]

lemma find?_called_eq_none_iff (hall : ∀ f, f ∈ fields) :
    fields.find? (fun f => eqIgnoringCase (called f) name) = none ↔ ∀ f, eqIgnoringCase (called f) name = false := by
  simp [List.find?_eq_none, hall]

end Named

namespace RequestField

variable {f : RequestField} {name : String}

lemma ofName?_eq_some_iff : ofName? name = some f ↔ eqIgnoringCase f.name name = true :=
  find?_called_eq_some_iff (fun f => by cases f <;> decide) fun f g => by cases f <;> cases g <;> decide

lemma ofName?_eq_none_iff : ofName? name = none ↔ ∀ f : RequestField, eqIgnoringCase f.name name = false :=
  find?_called_eq_none_iff fun f => by cases f <;> decide

end RequestField

namespace ResponseField

variable {f : ResponseField} {name : String}

lemma ofName?_eq_some_iff : ofName? name = some f ↔ eqIgnoringCase f.name name = true :=
  find?_called_eq_some_iff (fun f => by cases f <;> decide) fun f g => by cases f <;> cases g <;> decide

lemma ofName?_eq_none_iff : ofName? name = none ↔ ∀ f : ResponseField, eqIgnoringCase f.name name = false :=
  find?_called_eq_none_iff fun f => by cases f <;> decide

end ResponseField

end DiscountTables
