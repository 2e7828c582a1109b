import DiscountTables.Template.Error
import DiscountTables.Request

/-!
Column templates: what the header of a rule table says about a column.

A CONDITION column names the request field that it tests and an operator, an ACTION column the response
field that it writes.
-/

namespace DiscountTables

open Text

structure ConditionTemplate where
  field : RequestField
  operator : Template.Operator
  /-- The name before the point; it has no meaning. -/
  owner : Option String
  deriving DecidableEq, Repr

structure ActionTemplate where
  field : ResponseField
  owner : Option String
  deriving DecidableEq, Repr

def ConditionTemplate.read (text : String) : Except TemplateError ConditionTemplate :=
  match Template.condition text.toList with
  | .error stuck => .error (.malformed text stuck)
  | .ok c =>
    match RequestField.ofName? c.path.name with
    | none => .error (.unknownRequestField c.path.name)
    | some field => .ok ⟨field, c.operator, c.path.owner⟩

/-- The field name that an action gives: after `set` in the parenthesised form, as it stands otherwise. -/
def Template.Action.fieldName (a : Template.Action) : Except TemplateError String :=
  match a.form with
  | .setter =>
    match Template.after? ['s', 'e', 't'] a.path.name.toList with
    | none => .error (.notASetter a.path.name)
    | some rest => .ok (String.ofList rest)
  | _ => .ok a.path.name

def ActionTemplate.read (text : String) : Except TemplateError ActionTemplate :=
  match Template.action text.toList with
  | .error stuck => .error (.malformed text stuck)
  | .ok a =>
    match a.fieldName with
    | .error e => .error e
    | .ok name =>
      match ResponseField.ofName? name with
      | none => .error (.unknownResponseField name)
      | some field => .ok ⟨field, a.path.owner⟩

end DiscountTables
