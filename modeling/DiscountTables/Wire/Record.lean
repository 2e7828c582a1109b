import DiscountTables.Lookup
import DiscountTables.Wire.Json
import DiscountTables.Wire.Mismatch

/-!
Records on the wire. A record is an object whose unknown fields do not count, or an array of its fields
in order. Fields are read in the order in which they stand; what is missing is found afterwards.
-/

namespace DiscountTables.Wire

namespace Json

def found : Json → Found
  | .null => .null
  | .boolean b => .boolean b
  | .integer n => .integer n
  | .number x => .number (numberText x)
  | .string s => .string s
  | .array _ => .sequence
  | .object _ => .map

def text : Json → Except Mismatch String
  | .string s => .ok s
  | j => .error (.invalidType j.found "a string")

def optionalText : Json → Except Mismatch (Option String)
  | .null => .ok none
  | j => j.text.map some

def word : Json → Except Mismatch Nat
  | .integer n =>
    if 0 ≤ n ∧ n < 65536 then .ok n.toNat else .error (.invalidValue (.integer n) "u16")
  | j => .error (.invalidType j.found "u16")

end Json

structure RecordForm where
  name : String
  fields : List (String × (Json → Except Mismatch Unit))

def RecordForm.positional (form : RecordForm) (index : Nat) :
    List (String × (Json → Except Mismatch Unit)) → List Json →
      Except Mismatch (List (String × Json))
  | [], [] => .ok []
  | [], rest => .error (.invalidLength (index + rest.length) "fewer elements in array")
  | _ :: _, [] =>
    .error (.invalidLength index
      ("struct " ++ form.name ++ " with " ++ toString form.fields.length ++ " elements"))
  | (name, check) :: fields, j :: rest => do
    check j
    return (name, j) :: (← form.positional (index + 1) fields rest)

def RecordForm.values (form : RecordForm) : Json → Except Mismatch (List (String × Json))
  | .object entries => do
    entries.forM fun (key, j) =>
      match form.fields.lookup key with
      | some check => check j
      | none => .ok ()
    return entries
  | .array items => form.positional 0 form.fields items
  | j => .error (.invalidType j.found ("struct " ++ form.name))

def required (values : List (String × Json)) (name : String) (read : Json → Except Mismatch α) :
    Except Mismatch α :=
  match values.lookup name with
  | some j => read j
  | none => .error (.missingField name)

def optional (values : List (String × Json)) (name : String) : Except Mismatch (Option String) :=
  match values.lookup name with
  | some j => j.optionalText
  | none => .ok none

def holds (read : Json → Except Mismatch α) (j : Json) : Except Mismatch Unit := (read j).map fun _ => ()

def requestForm : RecordForm where
  name := "DiscountRequest"
  fields := RequestField.all.map fun f => (f.name, holds Json.text)

def readRequest (j : Json) : Except Mismatch Request := do
  let values ← requestForm.values j
  let get := fun (f : RequestField) => required values f.name Json.text
  return {
    country := ← get .country
    state := ← get .state
    city := ← get .city
    loyaltyTier := ← get .loyaltyTier
    loyaltyPeriod := ← get .loyaltyPeriod }

def requestJson (r : Request) : Json :=
  .object (RequestField.all.map fun f => (f.name, .string (r.get f)))

def responseForm : RecordForm where
  name := "DiscountResponse"
  fields := ResponseField.all.map fun f => (f.name, holds Json.optionalText)

def readResponse (j : Json) : Except Mismatch Response := do
  let values ← responseForm.values j
  return {
    conversionRate := ← optional values ResponseField.conversionRate.name
    discountPercentage := ← optional values ResponseField.discountPercentage.name }

def optionalJson (s : Option String) : Json := s.elim .null .string

def responseJson (r : Response) : Json :=
  .object (ResponseField.all.map fun f => (f.name, optionalJson (r.get f)))

def errorForm : RecordForm where
  name := "ErrorResponse"
  fields := [("timestamp", holds Json.text), ("status", holds Json.word), ("error", holds Json.text),
    ("message", holds Json.text)]

def readErrorResponse (j : Json) : Except Mismatch ErrorResponse := do
  let values ← errorForm.values j
  return {
    timestamp := ← required values "timestamp" Json.text
    status := ← required values "status" Json.word
    error := ← required values "error" Json.text
    message := ← required values "message" Json.text }

def errorResponseJson (e : ErrorResponse) : Json :=
  .object [("timestamp", .string e.timestamp), ("status", .integer e.status),
    ("error", .string e.error), ("message", .string e.message)]

end DiscountTables.Wire
