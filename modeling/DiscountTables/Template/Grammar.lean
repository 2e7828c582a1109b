import DiscountTables.Text.Basic

/-!
The grammar of column templates.

A condition is a field name, perhaps after an owner and a point, and perhaps an operator with the cell
placeholder: `request.state != "$param"`. An action is a field name, likewise, and perhaps the
placeholder in parentheses or after an equals sign: `response.setDiscountPercentage("$param")`. Blanks
may stand between any two parts, and a semicolon at the end.

Reading stops at the first token that does not fit; what is left there locates the error.
-/

namespace DiscountTables.Template

open Text

inductive Operator where
  | equal
  | notEqual
  | fits
  deriving DecidableEq, Repr

def Operator.symbol : Operator → String
  | .equal => "=="
  | .notEqual => "!="
  | .fits => "matches"

inductive Expectation where
  | fieldName
  | placeholder
  deriving DecidableEq, Repr

/-- Where reading stopped: the text from the token that did not fit, and what should have stood there
if it is one of the two named things. -/
structure Stuck where
  rest : List Char
  expected : Option Expectation
  deriving DecidableEq, Repr

abbrev Reader (α : Type) := List Char → Except Stuck (α × List Char)

def isNameStart (c : Char) : Bool := isAsciiLetter c || c == '_'
def isNamePart (c : Char) : Bool := isNameStart c || isAsciiDigit c

def identifier? : List Char → Option (List Char × List Char)
  | [] => none
  | c :: rest =>
    if isNameStart c then some (c :: rest.takeWhile isNamePart, rest.dropWhile isNamePart) else none

structure Path where
  owner : Option String
  name : String
  deriving DecidableEq, Repr

def path : Reader Path := fun s =>
  match identifier? s with
  | none => .error ⟨s, some .fieldName⟩
  | some (owner, '.' :: rest) =>
    match identifier? rest with
    | none => .error ⟨rest, none⟩
    | some (name, rest) => .ok (⟨some (String.ofList owner), String.ofList name⟩, rest)
  | some (name, rest) => .ok (⟨none, String.ofList name⟩, rest)

def after? (word s : List Char) : Option (List Char) :=
  if word.isPrefixOf s then some (s.drop word.length) else none

def bareParam : List Char := ['$', 'p', 'a', 'r', 'a', 'm']
def quotedParam : List Char := '"' :: bareParam ++ ['"']

def placeholder : Reader Unit := fun s =>
  match after? quotedParam s with
  | some rest => .ok ((), rest)
  | none =>
    match after? bareParam s with
    | some rest => .ok ((), rest)
    | none => .error ⟨s, some .placeholder⟩

def operator? (s : List Char) : Option (Operator × List Char) :=
  match after? ['=', '='] s with
  | some rest => some (.equal, rest)
  | none =>
    match after? ['!', '='] s with
    | some rest => some (.notEqual, rest)
    | none => (after? ['m', 'a', 't', 'c', 'h', 'e', 's'] s).map (Operator.fits, ·)

def trailer (s : List Char) : Except Stuck Unit :=
  let s := skipBlanks s
  let s := match s with
    | ';' :: rest => skipBlanks rest
    | _ => s
  match s with
  | [] => .ok ()
  | _ :: _ => .error ⟨s, none⟩

structure Condition where
  path : Path
  operator : Operator
  deriving DecidableEq, Repr

def condition (s : List Char) : Except Stuck Condition := do
  let (path, rest) ← path (skipBlanks s)
  let rest := skipBlanks rest
  match operator? rest with
  | none =>
    trailer rest
    return ⟨path, .equal⟩
  | some (operator, rest) =>
    let ((), rest) ← placeholder (skipBlanks rest)
    trailer rest
    return ⟨path, operator⟩

inductive ActionForm where
  | bare
  | assignment
  | setter
  deriving DecidableEq, Repr

structure Action where
  path : Path
  form : ActionForm
  deriving DecidableEq, Repr

def closing (s : List Char) : Except Stuck (List Char) :=
  match s with
  | ')' :: rest => .ok rest
  | _ => .error ⟨s, none⟩

def action (s : List Char) : Except Stuck Action := do
  let (path, rest) ← path (skipBlanks s)
  match skipBlanks rest with
  | '(' :: rest =>
    let ((), rest) ← placeholder (skipBlanks rest)
    let rest ← closing (skipBlanks rest)
    trailer rest
    return ⟨path, .setter⟩
  | '=' :: rest =>
    let ((), rest) ← placeholder (skipBlanks rest)
    trailer rest
    return ⟨path, .assignment⟩
  | rest =>
    trailer rest
    return ⟨path, .bare⟩

end DiscountTables.Template
