import DiscountTables.Number.Double
import DiscountTables.Toml.Datetime

/-!
TOML values, and tables while they are being built.

A value as written has the entries of its tables in the order of the document; what it means has them in
the order of their keys.

A table that is under construction remembers how it came to be. One that only a longer path named may
still get a header of its own; one that dotted keys made can be extended by dotted keys alone.
-/

namespace DiscountTables.Toml

open Number

inductive Value where
  | string (s : String)
  | integer (n : Int)
  | number (x : Double)
  | boolean (b : Bool)
  | datetime (text : String)
  | array (items : List Value)
  | table (entries : List (String × Value))
  deriving Repr

namespace Value

def datetimeKey : String := "$__toml_private_datetime"

def isDatetime (entries : List (String × Value)) : Bool :=
  match entries with
  | (key, _) :: _ => key == datetimeKey
  | [] => false

def datetimeOf? (entries : List (String × Value)) : Option Value :=
  match entries with
  | (_, .string s) :: _ => (datetimeText? s).map .datetime
  | _ => none

mutual

/-- What a value as written means. A table for a date or time that gives none has no meaning. -/
def meaning? : Value → Option Value
  | .array items => (meanings? items).map .array
  | .table entries =>
    if isDatetime entries then datetimeOf? entries else (entryMeanings? entries).map .table
  | v => some v

def meanings? : List Value → Option (List Value)
  | [] => some []
  | v :: rest => do return (← meaning? v) :: (← meanings? rest)

def entryMeanings? : List (String × Value) → Option (List (String × Value))
  | [] => some []
  | (k, v) :: rest => do return insertByName k (← meaning? v) (← entryMeanings? rest)

end

end Value

/-- A table being built, or what stands in one. `implicit` says that no header or braces made it,
`dotted` that dotted keys did. -/
inductive Node where
  | leaf (v : Value)
  | table (implicit dotted : Bool) (entries : List (String × Node))
  | tables (before : List Node) (last : Node)
  deriving Repr

namespace Node

def emptyTable : Node := .table false false []

def madeBy (dotted : Bool) : Node := .table true dotted []

def putByName {α : Type} (name : String) (value : α) : List (String × α) → List (String × α)
  | [] => [(name, value)]
  | (k, v) :: rest => if k = name then (name, value) :: rest else (k, v) :: putByName name value rest

/-- Changes the node at the end of a path; the tables on the way are made if they are missing. Of an
array of tables the path goes into the last. Dotted keys do not enter a table that was written out. -/
def alter (dotted : Bool) (act : Node → Option Node) : List String → Node → Option Node
  | [], n => act n
  | key :: path, .table implicit isDotted entries => do
    let child ← match (entries.lookup key).getD (madeBy dotted) with
      | .leaf _ => none
      | .tables before last => (alter dotted act path last).map (.tables before)
      | .table i d es => if dotted && !i then none else alter dotted act path (.table i d es)
    return .table implicit isDotted (putByName key child entries)
  | _ :: _, _ => none

/-- A new entry of a table. Dotted keys add to tables made by dotted keys, other keys to others. -/
def addEntry (underDots : Bool) (key : String) (child : Node) : Node → Option Node
  | .table implicit dotted entries =>
    if dotted != underDots || (entries.lookup key).isSome then none
    else some (.table implicit dotted (putByName key child entries))
  | _ => none

def addValue (path : List String) (key : String) (v : Value) (n : Node) : Option Node :=
  n.alter true (addEntry (!path.isEmpty) key (.leaf v)) path

def addTable (key : String) : Node → Option Node
  | .table implicit dotted entries =>
    match entries.lookup key with
    | none => some (.table implicit dotted (putByName key emptyTable entries))
    | some (.table true false es) =>
      some (.table implicit dotted (entries.filter (·.1 != key) ++ [(key, .table false false es)]))
    | some _ => none
  | _ => none

def addToArray (key : String) : Node → Option Node
  | .table implicit dotted entries =>
    match entries.lookup key with
    | none => some (.table implicit dotted (putByName key (.tables [] emptyTable) entries))
    | some (.tables before last) =>
      some (.table implicit dotted (putByName key (.tables (before ++ [last]) emptyTable) entries))
    | some _ => none
  | _ => none

mutual

def toValue : Node → Value
  | .leaf v => v
  | .table _ _ entries => .table (entryValues entries)
  | .tables before last => .array (values before ++ [toValue last])

def values : List Node → List Value
  | [] => []
  | n :: rest => toValue n :: values rest

def entryValues : List (String × Node) → List (String × Value)
  | [] => []
  | (k, n) :: rest => (k, toValue n) :: entryValues rest

end

end Node

end DiscountTables.Toml
