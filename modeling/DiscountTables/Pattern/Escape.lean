import DiscountTables.Pattern.Cursor
import DiscountTables.Pattern.Syntax

namespace DiscountTables.Pattern

open Text

abbrev Reader (α : Type) := Cursor → Except Fault (α × Cursor)

inductive Item where
  | literal (l : Literal)
  | assertion (kind : Assertion) (span : Span)
  | perl (kind : PerlClass) (negated : Bool) (span : Span)
  | property (query : PropertyQuery) (negated : Bool) (span : Span)
  deriving DecidableEq, Repr

def Item.span : Item → Span
  | literal l => l.span
  | assertion _ s | perl _ _ s | property _ _ s => s

def Item.toExpr : Item → Expr
  | literal l => .literal l
  | assertion kind s => .assertion kind s
  | perl kind negated s => .characters (.perl kind negated s)
  | property query negated s => .characters (.property query negated s)

def fault (kind : FaultKind) (span : Span) : Except Fault α := .error { kind, span }

def scalar? (n : Nat) : Option Char :=
  if n.isValidChar then some (Char.ofNat n) else none

def decimal (verbose : Bool) (c : Cursor) : Except Fault Nat × Cursor :=
  let (_, c) := c.takeWhile false isBlank
  let (digits, after) := c.takeWhile verbose isAsciiDigit
  let (_, rest) := after.takeWhile verbose isBlank
  let span : Span := ⟨c.place, after.place⟩
  let n := digitsValue 10 (digits.filterMap hexDigit?)
  (if digits.isEmpty then fault .countMissing span
    else if n < 1 <<< 32 then .ok n
    else fault .decimalInvalid span, rest)

def fixedHex (verbose : Bool) : Nat → List Nat → Reader (List Nat)
  | 0, read, c => .ok (read.reverse, c)
  | n + 1, read, c =>
    match c.rest with
    | [] => fault .escapeUnfinished c.here
    | d :: _ =>
      match hexDigit? d with
      | none => fault .hexDigitInvalid c.charSpan
      | some v => fixedHex verbose n (v :: read) (c.advance verbose)

def hexWidth (letter : Char) : Nat := if letter = 'x' then 2 else if letter = 'u' then 4 else 8

def hexEscape (verbose : Bool) (letter : Char) (first : Place) : Reader Item := fun c =>
  let c := c.advance verbose
  match c.rest with
  | [] => fault .escapeUnfinished c.here
  | '\x7b' :: _ =>
    let (digits, after) := (c.advance verbose).takeWhile verbose fun d => (hexDigit? d).isSome
    match after.rest with
    | [] => fault .escapeUnfinished ⟨c.place, after.place⟩
    | '\x7d' :: _ =>
      let rest := after.advance verbose
      if digits.isEmpty then fault .hexEmpty ⟨c.place, rest.place⟩
      else
        match scalar? (digitsValue 16 (digits.filterMap hexDigit?)) with
        | none => fault .hexInvalid ⟨c.next.place, after.place⟩
        | some d => .ok (.literal ⟨d, false, ⟨first, rest.place⟩⟩, rest)
    | _ => fault .hexDigitInvalid after.charSpan
  | _ => do
    let (digits, rest) ← fixedHex verbose (hexWidth letter) [] c
    match scalar? (digitsValue 16 digits) with
    | none => fault .hexInvalid ⟨c.place, rest.place⟩
    | some d => return (.literal ⟨d, letter == 'x', ⟨first, rest.place⟩⟩, rest)

def cutAt? (word : List Char) (before : List Char) : List Char → Option (String × String)
  | [] => none
  | d :: rest =>
    if word.isPrefixOf (d :: rest) then
      some (String.ofList before.reverse, String.ofList ((d :: rest).drop word.length))
    else cutAt? word (d :: before) rest

def propertyQuery (text : List Char) : PropertyQuery :=
  match cutAt? ['!', '='] [] text with
  | some (name, value) => .valued name value true
  | none =>
    match (cutAt? [':'] [] text).or (cutAt? ['='] [] text) with
    | some (name, value) => .valued name value false
    | none => .named (String.ofList text)

def propertyEscape (verbose : Bool) (negated : Bool) (first : Place) : Reader Item := fun c =>
  let c := c.advance verbose
  match c.rest with
  | [] => fault .escapeUnfinished c.here
  | '\x7b' :: _ =>
    let (name, after) := (c.advance verbose).takeWhile verbose (· != '\x7d')
    match after.rest with
    | [] => fault .escapeUnfinished after.here
    | _ =>
      let rest := after.next
      .ok (.property (propertyQuery name) negated ⟨first, rest.place⟩, rest)
  | d :: _ =>
    if d = '\\' then fault .propertyInvalid c.charSpan
    else
      let rest := c.advance verbose
      .ok (.property (.letter d) negated ⟨first, rest.place⟩, rest)

def isMeta (c : Char) : Bool := "\\.+*?()|[]\x7b\x7d^$#&-~".toList.contains c

def isEscapable (c : Char) : Bool :=
  isMeta c ||
    (c.toNat < 128 && !isAsciiLetter c && !isAsciiDigit c && c != '<' && c != '>')

def controlEscape? : Char → Option Char
  | 'a' => some '\x07'
  | 'f' => some '\x0c'
  | 't' => some '\t'
  | 'n' => some '\n'
  | 'r' => some '\r'
  | 'v' => some '\x0b'
  | _ => none

def perlEscape? : Char → Option (PerlClass × Bool)
  | 'd' => some (.digit, false)
  | 'D' => some (.digit, true)
  | 's' => some (.space, false)
  | 'S' => some (.space, true)
  | 'w' => some (.word, false)
  | 'W' => some (.word, true)
  | _ => none

def assertionEscape? : Char → Option Assertion
  | 'A' => some .startText
  | 'z' => some .endText
  | 'B' => some .notWordBoundary
  | '<' => some .wordStart
  | '>' => some .wordEnd
  | _ => none

def namedBoundary? (name : List Char) : Option Assertion :=
  match String.ofList name with
  | "start" => some .wordStart
  | "end" => some .wordEnd
  | "start-half" => some .wordStartHalf
  | "end-half" => some .wordEndHalf
  | _ => none

/-- A word boundary, from the place after its letter on; a name in braces may say which kind. Braces
that hold no name are left to be read as a count. -/
def wordBoundary (verbose : Bool) (first : Place) : Reader Item := fun c =>
  let plain : Item × Cursor := (.assertion .wordBoundary ⟨first, c.place⟩, c)
  let isNamePart := fun d => isAsciiLetter d || d == '-'
  match c.rest with
  | '\x7b' :: _ =>
    let inside := c.advance verbose
    match inside.rest with
    | [] => fault .wordBoundaryOrCountUnfinished ⟨first, inside.place⟩
    | d :: _ =>
      if isNamePart d then
        let (name, after) := inside.takeWhile verbose isNamePart
        match after.rest with
        | '\x7d' :: _ =>
          match namedBoundary? name with
          | some kind => .ok (.assertion kind ⟨first, after.next.place⟩, after.next)
          | none => fault .wordBoundaryUnrecognized ⟨inside.place, after.place⟩
        | _ => fault .wordBoundaryUnclosed ⟨c.place, after.place⟩
      else .ok plain
  | _ => .ok plain

def escape (verbose : Bool) : Reader Item := fun c =>
  let first := c.place
  let c := c.next
  match c.rest with
  | [] => fault .escapeUnfinished ⟨first, c.place⟩
  | d :: _ =>
    let span : Span := ⟨first, c.next.place⟩
    if isAsciiDigit d then fault .backreference span
    else if d = 'x' ∨ d = 'u' ∨ d = 'U' then hexEscape verbose d first c
    else if d = 'p' ∨ d = 'P' then propertyEscape verbose (d == 'P') first c
    else if d = 'b' then wordBoundary verbose first c.next
    else if isEscapable d then .ok (.literal ⟨d, false, span⟩, c.next)
    else
      match perlEscape? d, controlEscape? d, assertionEscape? d with
      | some (kind, negated), _, _ => .ok (.perl kind negated span, c.next)
      | _, some e, _ => .ok (.literal ⟨e, false, span⟩, c.next)
      | _, _, some kind => .ok (.assertion kind span, c.next)
      | none, none, none => fault .escapeUnrecognized span

def plainItem (verbose : Bool) : Reader Item := fun c =>
  match c.rest with
  | '\\' :: _ => escape verbose c
  | d :: _ => .ok (.literal ⟨d, false, c.charSpan⟩, c.next)
  | [] => fault .escapeUnfinished c.here

end DiscountTables.Pattern
