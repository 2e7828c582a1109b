import DiscountTables.Text.Basic

namespace DiscountTables.Pattern

open Text

structure Place where
  offset : Nat
  line : Nat
  column : Nat
  deriving DecidableEq, Repr

namespace Place

def start : Place := ⟨0, 1, 1⟩

def after (p : Place) (c : Char) : Place :=
  if c = '\n' then ⟨p.offset + c.utf8Size, p.line + 1, 1⟩
  else ⟨p.offset + c.utf8Size, p.line, p.column + 1⟩

end Place

structure Span where
  first : Place
  last : Place
  deriving DecidableEq, Repr

def Span.at (p : Place) : Span := ⟨p, p⟩

inductive FaultKind where
  | classEscapeInvalid
  | classRangeInvalid
  | classRangeLiteral
  | classUnclosed
  | decimalInvalid
  | hexEmpty
  | hexInvalid
  | hexDigitInvalid
  | escapeUnfinished
  | escapeUnrecognized
  | flagDanglingNegation
  | flagDuplicate
  | flagRepeatedNegation
  | flagUnfinished
  | flagUnrecognized
  | groupNameDuplicate
  | groupNameEmpty
  | groupNameInvalid
  | groupNameUnfinished
  | groupUnclosed
  | groupUnopened
  | countInvalid
  | countMissing
  | countUnclosed
  | repetitionMissing
  | wordBoundaryUnclosed
  | wordBoundaryUnrecognized
  | wordBoundaryOrCountUnfinished
  | propertyInvalid
  | backreference
  | lookAround
  | unicodeNotAllowed
  | invalidUtf8
  | nestingExceeded
  | propertyNotFound
  | propertyValueNotFound
  deriving DecidableEq, Repr

def FaultKind.text : FaultKind → String
  | classEscapeInvalid => "invalid escape sequence found in character class"
  | classRangeInvalid => "invalid character class range, the start must be <= the end"
  | classRangeLiteral => "invalid range boundary, must be a literal"
  | classUnclosed => "unclosed character class"
  | decimalInvalid => "decimal literal invalid"
  | hexEmpty => "hexadecimal literal empty"
  | hexInvalid => "hexadecimal literal is not a Unicode scalar value"
  | hexDigitInvalid => "invalid hexadecimal digit"
  | escapeUnfinished => "incomplete escape sequence, reached end of pattern prematurely"
  | escapeUnrecognized => "unrecognized escape sequence"
  | flagDanglingNegation => "dangling flag negation operator"
  | flagDuplicate => "duplicate flag"
  | flagRepeatedNegation => "flag negation operator repeated"
  | flagUnfinished => "expected flag but got end of regex"
  | flagUnrecognized => "unrecognized flag"
  | groupNameDuplicate => "duplicate capture group name"
  | groupNameEmpty => "empty capture group name"
  | groupNameInvalid => "invalid capture group character"
  | groupNameUnfinished => "unclosed capture group name"
  | groupUnclosed => "unclosed group"
  | groupUnopened => "unopened group"
  | countInvalid => "invalid repetition count range, the start must be <= the end"
  | countMissing => "repetition quantifier expects a valid decimal"
  | countUnclosed => "unclosed counted repetition"
  | repetitionMissing => "repetition operator missing expression"
  | wordBoundaryUnclosed =>
    "special word boundary assertion is either unclosed or contains an invalid character"
  | wordBoundaryUnrecognized =>
    "unrecognized special word boundary assertion, " ++
      "valid choices are: start, end, start-half or end-half"
  | wordBoundaryOrCountUnfinished =>
    "found either the beginning of a special word boundary or a bounded repetition " ++
      "on a \\b with an opening brace, but no closing brace"
  | propertyInvalid => "invalid Unicode character class"
  | backreference => "backreferences are not supported"
  | lookAround => "look-around, including look-ahead and look-behind, is not supported"
  | unicodeNotAllowed => "Unicode not allowed here"
  | invalidUtf8 => "pattern can match invalid UTF-8"
  | nestingExceeded => "exceed the maximum number of nested parentheses/brackets (250)"
  | propertyNotFound => "Unicode property not found"
  | propertyValueNotFound => "Unicode property value not found"

structure Fault where
  kind : FaultKind
  span : Span
  earlier : Option Span := none
  deriving DecidableEq, Repr

namespace Fault

def lines (pattern : String) : List (List Char) :=
  let all := pieces (· == '\n') pattern.toList
  let all := if all.getLast? = some [] then all.dropLast else all
  all.map fun line => if line.getLast? = some '\r' then line.dropLast else line

def Span.before (a b : Span) : Bool :=
  a.first.offset < b.first.offset ||
    (a.first.offset == b.first.offset && a.last.offset ≤ b.last.offset)

def marked (f : Fault) : List Span :=
  match f.earlier with
  | none => [f.span]
  | some e => if Span.before e f.span then [e, f.span] else [f.span, e]

def carets (column : Nat) : List Span → List Char
  | [] => []
  | s :: rest =>
    let gap := s.first.column - 1 - column
    let width := max 1 (s.last.column - s.first.column)
    List.replicate gap ' ' ++ List.replicate width '^' ++ carets (column + gap + width) rest

def notes (f : Fault) (line : Nat) (margin : Nat) : String :=
  match f.marked.filter fun s => s.first.line == line && s.last.line == line with
  | [] => ""
  | spans => String.ofList (List.replicate margin ' ' ++ carets 0 spans ++ ['\n'])

def rangeNote (s : Span) : String :=
  "on line " ++ toString s.first.line ++ " (column " ++ toString s.first.column ++
    ") through line " ++ toString s.last.line ++ " (column " ++ toString (s.last.column - 1) ++ ")"

def annotated (f : Fault) (pattern : String) : String :=
  let all := lines pattern
  let width :=
    if pattern.contains '\n' then
      (toString (if pattern.toList.getLast? = some '\n' then all.length + 1 else all.length)).length
    else 0
  String.join (all.mapIdx fun i line =>
    let number := toString (i + 1)
    let label :=
      if width = 0 then "    "
      else String.ofList (List.replicate (width - number.length) ' ') ++ number ++ ": "
    label ++ String.ofList line ++ "\n" ++ f.notes (i + 1) (if width = 0 then 4 else width + 2))

def render (f : Fault) (pattern : String) : String :=
  let body :=
    if pattern.contains '\n' then
      let rule := String.ofList (List.replicate 79 '~') ++ "\n"
      let ranges := (f.marked.filter fun s => s.first.line != s.last.line).map rangeNote
      rule ++ f.annotated pattern ++ rule ++
        (if ranges.isEmpty then "" else "\n".intercalate ranges ++ "\n")
    else f.annotated pattern
  "regex parse error:\n" ++ body ++ "error: " ++ f.kind.text

end Fault

end DiscountTables.Pattern
