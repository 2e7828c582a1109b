import DiscountTables.Toml.Scalar

namespace DiscountTables.Toml

open Text

def isSpace (c : Char) : Bool := c == ' ' || c == '\t'

def skipSpaces (s : List Char) : List Char := s.dropWhile isSpace

def newline? : List Char → Option (List Char)
  | '\n' :: rest => some rest
  | '\r' :: '\n' :: rest => some rest
  | _ => none

def isCommentChar (c : Char) : Bool := c == '\t' || (0x20 ≤ c.toNat && c.toNat != 0x7F)

def skipComment : List Char → List Char
  | '#' :: rest => rest.dropWhile isCommentChar
  | s => s

def skipLines : Nat → List Char → List Char
  | 0, s => s
  | fuel + 1, s =>
    let s := skipSpaces s
    match newline? (skipComment s) with
    | some rest => skipLines fuel rest
    | none => s

def isBare (c : Char) : Bool := isAsciiLetter c || isAsciiDigit c || c == '_' || c == '-'

def isBasicChar (c : Char) : Bool := isCommentChar c && c != '"' && c != '\\'
def isLiteralChar (c : Char) : Bool := isCommentChar c && c != '\''

def hexChar (count : Nat) : Reader Char := fun s =>
  let digits := (s.take count).filterMap hexDigit?
  let n := digitsValue 16 digits
  if digits.length = count && (s.take count).length = count && n.isValidChar then
    some (Char.ofNat n, s.drop count)
  else none

def escape : Reader Char
  | 'b' :: rest => some ('\x08', rest)
  | 't' :: rest => some ('\t', rest)
  | 'n' :: rest => some ('\n', rest)
  | 'f' :: rest => some ('\x0c', rest)
  | 'r' :: rest => some ('\r', rest)
  | '"' :: rest => some ('"', rest)
  | '\\' :: rest => some ('\\', rest)
  | 'u' :: rest => hexChar 4 rest
  | 'U' :: rest => hexChar 8 rest
  | _ => none

def basicTail : Nat → List Char → Reader String
  | 0, _, _ => none
  | fuel + 1, read, s =>
    match s with
    | '"' :: rest => some (String.ofList read.reverse, rest)
    | '\\' :: rest => do
      let (c, rest) ← escape rest
      basicTail fuel (c :: read) rest
    | c :: rest => if isBasicChar c then basicTail fuel (c :: read) rest else none
    | [] => none

def literalTail (s : List Char) : Option (String × List Char) :=
  match s.dropWhile isLiteralChar with
  | '\'' :: rest => some (String.ofList (s.takeWhile isLiteralChar), rest)
  | _ => none

/-- At a row of quotes in a string of several lines: three or more end it, and up to two of them belong
to it. -/
def closingQuotes (quote : Char) (s : List Char) : Nat × Bool × List Char :=
  let count := (s.takeWhile (· == quote)).length
  if count < 3 then (count, false, s.drop count)
  else
    let inside := min (count - 3) 2
    (inside, true, s.drop (inside + 3))

/-- The rest of a string of several lines. In the basic form a backslash at the end of a line leaves out
all blanks and line ends after it. -/
def multilineTail (quote : Char) : Nat → List Char → Reader String
  | 0, _, _ => none
  | fuel + 1, read, s =>
    match s with
    | [] => none
    | c :: rest =>
      if c = quote then
        let (count, ends, rest) := closingQuotes quote s
        let read := List.replicate count quote ++ read
        if ends then some (String.ofList read.reverse, rest)
        else multilineTail quote fuel read rest
      else if quote = '"' ∧ c = '\\' then
        match newline? (skipSpaces rest) with
        | some after => multilineTail quote fuel read (skipBlankLines after.length after)
        | none => do
          let (c, rest) ← escape rest
          multilineTail quote fuel (c :: read) rest
      else
        match newline? s with
        | some rest => multilineTail quote fuel ('\n' :: read) rest
        | none => if isCommentChar c then multilineTail quote fuel (c :: read) rest else none
where
  skipBlankLines : Nat → List Char → List Char
    | 0, s => s
    | fuel + 1, s =>
      match newline? (skipSpaces s) with
      | some rest => skipBlankLines fuel rest
      | none => skipSpaces s

def multiline (quote : Char) : Reader String := fun s =>
  let s := (newline? s).getD s
  multilineTail quote (s.length + 1) [] s

def string : Reader String
  | '"' :: '"' :: '"' :: rest => multiline '"' rest
  | '\'' :: '\'' :: '\'' :: rest => multiline '\'' rest
  | '"' :: rest => basicTail (rest.length + 1) [] rest
  | '\'' :: rest => literalTail rest
  | _ => none

def simpleKey : Reader String
  | '"' :: rest => basicTail (rest.length + 1) [] rest
  | '\'' :: rest => literalTail rest
  | s =>
    let name := s.takeWhile isBare
    if name.isEmpty then none else some (String.ofList name, s.dropWhile isBare)

def depthLimit : Nat := 80

def dottedKey : Nat → List String → Reader (List String × String)
  | 0, _, _ => none
  | fuel + 1, path, s => do
    let (name, rest) ← simpleKey (skipSpaces s)
    match skipSpaces rest with
    | '.' :: rest => dottedKey fuel (path ++ [name]) rest
    | rest => return ((path, name), rest)

def key : Reader (List String × String) := dottedKey (depthLimit - 1) []

mutual

def value : Nat → Nat → Reader Value
  | 0, _, _ => none
  | fuel + 1, depth, s =>
    match s with
    | '"' :: _ | '\'' :: _ => (string s).map fun (t, rest) => (.string t, rest)
    | '[' :: rest =>
      match depth with
      | 0 => none
      | depth + 1 => do
        let (items, rest) ← items fuel depth [] rest
        return (.array items, rest)
    | '\x7b' :: rest =>
      match depth with
      | 0 => none
      | depth + 1 =>
        match skipSpaces rest with
        | '\x7d' :: rest => some (.table [], rest)
        | rest => do
          let (table, rest) ← pairs fuel depth .emptyTable rest
          return (table.toValue, rest)
    | s => scalar s

def items : Nat → Nat → List Value → Reader (List Value)
  | 0, _, _, _ => none
  | fuel + 1, depth, read, s =>
    match skipLines s.length s with
    | ']' :: rest => some (read.reverse, rest)
    | s => do
      let (v, rest) ← value fuel depth s
      match skipLines rest.length rest with
      | ',' :: rest => items fuel depth (v :: read) rest
      | ']' :: rest => return ((v :: read).reverse, rest)
      | _ => none

def pairs : Nat → Nat → Node → Reader Node
  | 0, _, _, _ => none
  | fuel + 1, depth, table, s => do
    let ((path, name), rest) ← key s
    match rest with
    | '=' :: rest =>
      let (v, rest) ← value fuel depth (skipSpaces rest)
      let table ← table.addValue path name v
      match skipSpaces rest with
      | ',' :: rest => pairs fuel depth table rest
      | '\x7d' :: rest => return (table, rest)
      | _ => none
    | _ => none

end

structure Progress where
  root : Node
  header : List String

namespace Progress

def header? (s : List Char) : Option ((List String × String) × Bool × List Char) :=
  match s with
  | '[' :: '[' :: rest =>
    match key rest with
    | some (k, ']' :: ']' :: rest) => some (k, true, rest)
    | _ => none
  | '[' :: rest =>
    match key rest with
    | some (k, ']' :: rest) => some (k, false, rest)
    | _ => none
  | _ => none

def enter (p : Progress) (path : List String) (name : String) (isArray : Bool) : Option Progress := do
  let root ← p.root.alter false (if isArray then Node.addToArray name else Node.addTable name) path
  return ⟨root, path ++ [name]⟩

def add (p : Progress) (path : List String) (name : String) (v : Value) : Option Progress := do
  let root ← p.root.alter false (Node.addValue path name v) p.header
  return { p with root }

def expression (p : Progress) (s : List Char) : Option (Progress × List Char) :=
  match s with
  | '[' :: _ => do
    let ((path, name), isArray, rest) ← header? s
    return (← p.enter path name isArray, rest)
  | _ => do
    let ((path, name), rest) ← key s
    match rest with
    | '=' :: rest =>
      let rest := skipSpaces rest
      let (v, rest) ← value (2 * rest.length + 2) (depthLimit - 1) rest
      return (← p.add path name v, rest)
    | _ => none

def run : Nat → Progress → List Char → Option Progress
  | 0, _, _ => none
  | fuel + 1, p, s =>
    match skipLines s.length s with
    | [] => some p
    | '#' :: rest => if (rest.dropWhile isCommentChar).isEmpty then some p else none
    | s => do
      let (p, rest) ← p.expression s
      let rest := skipComment (skipSpaces rest)
      match newline? rest with
      | some rest => run fuel p rest
      | none => if rest.isEmpty then return p else none

end Progress

def read? (text : String) : Option (List (String × Value)) :=
  let s := match text.toList with
    | '\ufeff' :: rest => rest
    | s => s
  match Progress.run (s.length + 1) ⟨.emptyTable, []⟩ s with
  | some ⟨.table _ _ entries, _⟩ => Value.entryMeanings? (Node.entryValues entries)
  | _ => none

end DiscountTables.Toml
