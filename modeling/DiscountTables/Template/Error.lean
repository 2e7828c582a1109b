import DiscountTables.Template.Grammar
import DiscountTables.Text.Basic

namespace DiscountTables

open Text Template

inductive TemplateError where
  | malformed (input : String) (stuck : Stuck)
  | unknownRequestField (name : String)
  | unknownResponseField (name : String)
  | notASetter (name : String)
  deriving DecidableEq, Repr

namespace Template

def Expectation.text : Expectation → String
  | .fieldName => "expected field name"
  | .placeholder => "expected `\"$param\"`"

def Stuck.accepted (stuck : Stuck) (input : List Char) : List Char :=
  input.take (input.length - stuck.rest.length)

def Stuck.offset (stuck : Stuck) (input : List Char) : Nat := utf8Length (stuck.accepted input)

def spaces (n : Nat) : String := String.ofList (List.replicate n ' ')

def lastLine (s : List Char) : List Char := (s.reverse.takeWhile (· != '\n')).reverse

/-- The line of the error and its column, both from zero. An error at the end of the input belongs to
the line of the last character. Columns count characters, except before a character outside ASCII,
where they count bytes. -/
def Stuck.position (stuck : Stuck) (input : List Char) : Nat × Nat :=
  match stuck.rest with
  | [] =>
    let before := input.dropLast
    (before.count '\n', (lastLine before).length + 1)
  | c :: _ =>
    let before := stuck.accepted input
    let line := lastLine before
    (before.count '\n', if c.utf8Size = 1 then line.length else utf8Length line)

def Stuck.render (stuck : Stuck) (input : List Char) : String :=
  let context := (stuck.expected.map Expectation.text).getD ""
  if input.contains '\n' then
    let (line, column) := stuck.position input
    let lineText := ((pieces (· == '\n') input)[line]?).getD []
    let number := toString (line + 1)
    let gutter := spaces number.length
    "parse error at line " ++ number ++ ", column " ++ toString (column + 1) ++ "\n" ++
      gutter ++ " |\n" ++
      number ++ " | " ++ String.ofList lineText ++ "\n" ++
      gutter ++ " | " ++ spaces column ++ "^\n" ++ context
  else
    String.ofList input ++ "\n" ++ spaces (stuck.offset input) ++ "^\n" ++ context

end Template

def TemplateError.message (e : TemplateError) : String :=
  "invalid template: " ++ match e with
    | .malformed input stuck => stuck.render input.toList
    | .unknownRequestField name => "unknown request field '" ++ name ++ "'"
    | .unknownResponseField name => "unknown response field '" ++ name ++ "'"
    | .notASetter name => "setter '" ++ name ++ "' must be named set<Field>"

end DiscountTables
