import DiscountTables.Text.Basic

namespace DiscountTables

open Text

inductive RequestField where
  | country
  | state
  | city
  | loyaltyTier
  | loyaltyPeriod
  deriving DecidableEq, Repr

namespace RequestField

def all : List RequestField := [country, state, city, loyaltyTier, loyaltyPeriod]

def name : RequestField → String
  | country => "country"
  | state => "state"
  | city => "city"
  | loyaltyTier => "loyaltyTier"
  | loyaltyPeriod => "loyaltyPeriod"

def ofName? (name : String) : Option RequestField := all.find? fun f => eqIgnoringCase f.name name

end RequestField

inductive ResponseField where
  | conversionRate
  | discountPercentage
  deriving DecidableEq, Repr

namespace ResponseField

def all : List ResponseField := [conversionRate, discountPercentage]

def name : ResponseField → String
  | conversionRate => "conversionRateUSD"
  | discountPercentage => "discountPercentage"

def ofName? (name : String) : Option ResponseField := all.find? fun f => eqIgnoringCase f.name name

end ResponseField

structure Request where
  country : String
  state : String
  city : String
  loyaltyTier : String
  loyaltyPeriod : String
  deriving DecidableEq, Repr

def Request.get (r : Request) : RequestField → String
  | .country => r.country
  | .state => r.state
  | .city => r.city
  | .loyaltyTier => r.loyaltyTier
  | .loyaltyPeriod => r.loyaltyPeriod

structure Response where
  conversionRate : Option String := none
  discountPercentage : Option String := none
  deriving DecidableEq, Repr

namespace Response

def get (r : Response) : ResponseField → Option String
  | .conversionRate => r.conversionRate
  | .discountPercentage => r.discountPercentage

def set (r : Response) (field : ResponseField) (value : String) : Response :=
  match field with
  | .conversionRate => { r with conversionRate := some value }
  | .discountPercentage => { r with discountPercentage := some value }

@[simp] theorem get_empty (f : ResponseField) : ({} : Response).get f = none := by cases f <;> rfl

theorem get_set (r : Response) (f g : ResponseField) (v : String) :
    (r.set f v).get g = if f = g then some v else r.get g := by
  cases f <;> cases g <;> rfl

end Response

end DiscountTables
