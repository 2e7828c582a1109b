import DiscountTables.Text.Basic
import DiscountTables.Wire.Numeral

/-!
JSON texts. An object keeps its keys in order, each once: of two fields with one key the later counts.
A number without fraction and exponent is an integer if it fits 64 bits.
-/

namespace DiscountTables.Wire

open Text Number

inductive Json where
  | null
  | boolean (value : Bool)
  | integer (value : Int)
  | number (value : Double)
  | string (value : String)
  | array (items : List Json)
  | object (fields : List (String × Json))
  deriving Repr

namespace Json

def get? (j : Json) (key : String) : Option Json :=
  match j with
  | .object fields => fields.lookup key
  | _ => none

def escape (c : Char) : String :=
  if c = '"' then "\\\"" else if c = '\\' then "\\\\"
  else if c = '\x08' then "\\b" else if c = '\x0c' then "\\f"
  else if c = '\n' then "\\n" else if c = '\r' then "\\r" else if c = '\t' then "\\t"
  else if c.toNat < 16 then "\\u000" ++ hexText c.toNat
  else if c.toNat < 32 then "\\u00" ++ hexText c.toNat
  else c.toString

def quote (s : String) : String := "\"" ++ String.join (s.toList.map escape) ++ "\""

mutual

def render : Json → String
  | .null => "null"
  | .boolean b => if b then "true" else "false"
  | .integer n => toString n
  | .number x => numberText x
  | .string s => quote s
  | .array items => "[" ++ renderItems items ++ "]"
  | .object fields => "\x7b" ++ renderFields fields ++ "\x7d"

def renderItems : List Json → String
  | [] => ""
  | [j] => render j
  | j :: rest => render j ++ "," ++ renderItems rest

def renderFields : List (String × Json) → String
  | [] => ""
  | [(k, j)] => quote k ++ ":" ++ render j
  | (k, j) :: rest => quote k ++ ":" ++ render j ++ "," ++ renderFields rest

end

def isSpace (c : Char) : Bool := c == ' ' || c == '\n' || c == '\r' || c == '\t'

def hexQuad? : List Char → Option (Nat × List Char)
  | a :: b :: c :: d :: rest => do
    return (digitsValue 16 [← hexDigit? a, ← hexDigit? b, ← hexDigit? c, ← hexDigit? d], rest)
  | _ => none

def unicodeEscape? (s : List Char) : Option (Char × List Char) := do
  let (high, rest) ← hexQuad? s
  if 0xD800 ≤ high && high < 0xDC00 then
    match rest with
    | '\\' :: 'u' :: rest =>
      let (low, rest) ← hexQuad? rest
      if 0xDC00 ≤ low && low < 0xE000 then
        return (Char.ofNat (0x10000 + (high - 0xD800) * 0x400 + (low - 0xDC00)), rest)
      else none
    | _ => none
  else if 0xDC00 ≤ high && high < 0xE000 then none
  else return (Char.ofNat high, rest)

def simpleEscape? : Char → Option Char
  | '"' => some '"'
  | '\\' => some '\\'
  | '/' => some '/'
  | 'b' => some '\x08'
  | 'f' => some '\x0c'
  | 'n' => some '\n'
  | 'r' => some '\r'
  | 't' => some '\t'
  | _ => none

def stringTail? : Nat → List Char → List Char → Option (String × List Char)
  | 0, _, _ => none
  | _ + 1, _, [] => none
  | fuel + 1, read, c :: rest =>
    if c = '"' then some (String.ofList read.reverse, rest)
    else if c = '\\' then
      match rest with
      | 'u' :: rest => do
        let (d, rest) ← unicodeEscape? rest
        stringTail? fuel (d :: read) rest
      | e :: rest => do
        let d ← simpleEscape? e
        stringTail? fuel (d :: read) rest
      | [] => none
    else if c.toNat < 32 then none
    else stringTail? fuel (c :: read) rest

def isNumeral (c : Char) : Bool :=
  isAsciiDigit c || c == '-' || c == '+' || c == '.' || c == 'e' || c == 'E'

def wholePart (digits : List Char) : Bool :=
  match digits with
  | [] => false
  | ['0'] => true
  | '0' :: _ => false
  | _ => true

def fits64 (negative : Bool) (n : Nat) : Bool :=
  if negative then n ≤ 1 <<< 63 && n != 0 else n < 1 <<< 64

def fraction? : List Char → Option (List Nat × List Char)
  | '.' :: s =>
    match takeDigits s with
    | ([], _) => none
    | r => some r
  | s => some ([], s)

def numeral? (s : List Char) : Option Json := do
  let (negative, s) := match s with
    | '-' :: r => (true, r)
    | r => (false, r)
  guard (wholePart (s.takeWhile isAsciiDigit))
  let (whole, rest) := takeDigits s
  let n := digitsValue 10 whole
  if rest.isEmpty && fits64 negative n then return .integer (Double.signed negative n)
  else
    let (fraction, rest) ← fraction? rest
    match ofDigits whole fraction (← readExponent? rest) with
    | .finite _ m e => some (.number (.finite negative m e))
    | _ => none

mutual

def value? : Nat → List Char → Option (Json × List Char)
  | 0, _ => none
  | fuel + 1, s =>
    match s.dropWhile isSpace with
    | 'n' :: 'u' :: 'l' :: 'l' :: rest => some (.null, rest)
    | 't' :: 'r' :: 'u' :: 'e' :: rest => some (.boolean true, rest)
    | 'f' :: 'a' :: 'l' :: 's' :: 'e' :: rest => some (.boolean false, rest)
    | '"' :: rest => (stringTail? (rest.length + 1) [] rest).map fun (s, rest) => (.string s, rest)
    | '[' :: rest =>
      match rest.dropWhile isSpace with
      | ']' :: rest => some (.array [], rest)
      | rest => (items? fuel [] rest).map fun (items, rest) => (.array items, rest)
    | '\x7b' :: rest =>
      match rest.dropWhile isSpace with
      | '\x7d' :: rest => some (.object [], rest)
      | rest => (fields? fuel [] rest).map fun (fields, rest) => (.object fields, rest)
    | s =>
      (numeral? (s.takeWhile isNumeral)).map fun j => (j, s.dropWhile isNumeral)

def items? : Nat → List Json → List Char → Option (List Json × List Char)
  | 0, _, _ => none
  | fuel + 1, read, s => do
    let (j, rest) ← value? fuel s
    match rest.dropWhile isSpace with
    | ',' :: rest => items? fuel (j :: read) rest
    | ']' :: rest => return ((j :: read).reverse, rest)
    | _ => none

def fields? : Nat → List (String × Json) → List Char → Option (List (String × Json) × List Char)
  | 0, _, _ => none
  | fuel + 1, read, s =>
    match s.dropWhile isSpace with
    | '"' :: rest => do
      let (key, rest) ← stringTail? (rest.length + 1) [] rest
      match rest.dropWhile isSpace with
      | ':' :: rest =>
        let (j, rest) ← value? fuel rest
        match rest.dropWhile isSpace with
        | ',' :: rest => fields? fuel (insertByName key j read) rest
        | '\x7d' :: rest => return (insertByName key j read, rest)
        | _ => none
      | _ => none
    | _ => none

end

def read? (text : String) : Option Json :=
  let s := text.toList
  match value? (s.length + 1) s with
  | some (j, rest) => if rest.all isSpace then some j else none
  | none => none

end Json

end DiscountTables.Wire
