import DiscountTables.Pattern.Basic
import DiscountTables.Request
import DiscountTables.Template.Basic

namespace DiscountTables

inductive Predicate where
  | equals (field : RequestField) (value : String)
  | differs (field : RequestField) (value : String)
  | fits (field : RequestField) (pattern : Pattern)
  deriving DecidableEq

namespace Predicate

def field : Predicate → RequestField
  | equals f _ | differs f _ | fits f _ => f

def holds (p : Predicate) (r : Request) : Bool :=
  match p with
  | equals f value => r.get f == value
  | differs f value => r.get f != value
  | fits f pattern => pattern.occursIn (r.get f)

def text (p : Predicate) : String :=
  match p with
  | equals f value => f.name ++ " == \"" ++ value ++ "\""
  | differs f value => f.name ++ " != \"" ++ value ++ "\""
  | fits f pattern => f.name ++ " matches \"" ++ pattern.source ++ "\""

def conjunctionText (predicates : List Predicate) : String :=
  " AND ".intercalate (predicates.map text)

end Predicate

structure Effect where
  field : ResponseField
  value : String
  deriving DecidableEq, Repr

def Effect.apply (r : Response) (e : Effect) : Response := r.set e.field e.value

def Effect.text (e : Effect) : String := e.field.name ++ " = \"" ++ e.value ++ "\""

structure RuleDraft where
  name : String
  predicates : List Predicate
  effects : List Effect
  deriving DecidableEq

structure Rule where
  name : String
  ruleSet : String
  ordinal : Nat
  predicates : List Predicate
  effects : List Effect
  deriving DecidableEq

namespace Rule

def applies (rule : Rule) (r : Request) : Bool := rule.predicates.all fun p => p.holds r

def fire (rule : Rule) (response : Response) : Response := rule.effects.foldl Effect.apply response

def text (rule : Rule) : String :=
  rule.ruleSet ++ "::" ++ rule.name ++ " when [" ++ Predicate.conjunctionText rule.predicates ++
    "] then [" ++ ", ".intercalate (rule.effects.map Effect.text) ++ "]"

end Rule

end DiscountTables
