import DiscountTables.Text.Quoted

namespace DiscountTables.Wire

open Text

inductive Found where
  | null
  | boolean (b : Bool)
  | integer (n : Int)
  | number (text : String)
  | string (s : String)
  | sequence
  | map
  deriving DecidableEq, Repr

def Found.text : Found → String
  | null => "null"
  | boolean b => "boolean `" ++ (if b then "true" else "false") ++ "`"
  | integer n => "integer `" ++ toString n ++ "`"
  | number text => "floating point `" ++ text ++ "`"
  | string s => "string " ++ quoted s
  | sequence => "sequence"
  | map => "map"

inductive Mismatch where
  | missingField (name : String)
  | unknownField (name : String) (known : List String)
  | invalidType (found : Found) (expected : String)
  | invalidValue (found : Found) (expected : String)
  | invalidLength (length : Nat) (expected : String)
  deriving DecidableEq, Repr

def Mismatch.message : Mismatch → String
  | missingField name => "missing field `" ++ name ++ "`"
  | unknownField name known =>
    "unknown field `" ++ name ++ "`, expected one of " ++
      ", ".intercalate (known.map fun k => "`" ++ k ++ "`")
  | invalidType found expected => "invalid type: " ++ found.text ++ ", expected " ++ expected
  | invalidValue found expected => "invalid value: " ++ found.text ++ ", expected " ++ expected
  | invalidLength length expected => "invalid length " ++ toString length ++ ", expected " ++ expected

end DiscountTables.Wire
