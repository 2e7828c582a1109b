import DiscountTables.Pattern.Escape

/-!
Character classes in brackets: items and ranges side by side, classes inside classes, and the set
operations `&&`, `--` and `~~`, which bind less than standing side by side and group to the left.
-/

namespace DiscountTables.Pattern

open Text

/-- What is open around the items being read: a bracket, with the items before it, last first, or an
operation that waits for its right side. -/
inductive ClassFrame where
  | bracket (before : List ClassSyntax) (negated : Bool) (span : Span)
  | operand (kind : SetOperator) (left : ClassSyntax)

def ClassSyntax.ofItems (place : Span) (items : List ClassSyntax) : ClassSyntax :=
  match items with
  | [] => .nothing place
  | e :: rest =>
    let span : Span := ⟨(items.getLastD e).span.first, e.span.last⟩
    rest.foldl (fun tail item => .union span item tail) e

def unclosedClass (frames : List ClassFrame) (c : Cursor) : Fault :=
  { kind := .classUnclosed
    span := (frames.findSome? fun
      | .bracket _ _ span => some span
      | .operand .. => none).getD c.here }

def closeOperation (right : ClassSyntax) : List ClassFrame → ClassSyntax × List ClassFrame
  | .operand kind left :: rest => (.operation kind left right, rest)
  | frames => (right, frames)

def hyphen (c : Cursor) : ClassSyntax := .literal ⟨'-', false, c.charSpan⟩

def leadingHyphens (verbose : Bool) :
    Nat → List ClassSyntax → Cursor → List ClassSyntax × Cursor
  | 0, read, c => (read, c)
  | fuel + 1, read, c =>
    match c.rest with
    | '-' :: _ => leadingHyphens verbose fuel (hyphen c :: read) (c.advance verbose)
    | _ => (read, c)

def openClass (verbose : Bool) : Reader (Bool × Span × List ClassSyntax) := fun c =>
  let first := c.place
  let unclosed := fun (c : Cursor) => fault .classUnclosed ⟨first, c.place⟩
  let c := c.advance verbose
  match c.rest with
  | [] => unclosed c
  | d :: _ =>
    let negated := d == '^'
    let c := if negated then c.advance verbose else c
    if c.rest.isEmpty then unclosed c
    else
      let (items, c) := leadingHyphens verbose c.rest.length [] c
      if c.rest.isEmpty then fault .classUnclosed ⟨first, first⟩
      else
        match items, c.rest with
        | [], ']' :: _ =>
          let after := c.advance verbose
          if after.rest.isEmpty then unclosed after
          else
            .ok ((negated, ⟨first, after.place⟩, [.literal ⟨']', false, c.charSpan⟩]), after)
        | items, _ => .ok ((negated, ⟨first, c.place⟩, items), c)

def asciiClass? (name : List Char) : Option AsciiClass :=
  match String.ofList name with
  | "alnum" => some .alnum
  | "alpha" => some .alpha
  | "ascii" => some .ascii
  | "blank" => some .blank
  | "cntrl" => some .cntrl
  | "digit" => some .digit
  | "graph" => some .graph
  | "lower" => some .lower
  | "print" => some .print
  | "punct" => some .punct
  | "space" => some .space
  | "upper" => some .upper
  | "word" => some .word
  | "xdigit" => some .xdigit
  | _ => none

def namedClass? (c : Cursor) : Option (ClassSyntax × Cursor) :=
  if c.startsWith "[:" then
    let inside := c.drop 2
    let negated := inside.rest.head? == some '^'
    let inside := if negated then inside.next else inside
    let (name, after) := inside.takeWhile false (· != ':')
    if after.startsWith ":]" then
      let after := after.drop 2
      (asciiClass? name).map fun kind => (.ascii kind negated ⟨c.place, after.place⟩, after)
    else none
  else none

def Item.toClass : Item → Except Fault ClassSyntax
  | .literal l => .ok (.literal l)
  | .perl kind negated span => .ok (.perl kind negated span)
  | .property query negated span => .ok (.property query negated span)
  | .assertion _ span => fault .classEscapeInvalid span

def Item.toBoundary : Item → Except Fault Literal
  | .literal l => .ok l
  | item => fault .classRangeLiteral item.span

def classRange (verbose : Bool) (frames : List ClassFrame) : Reader ClassSyntax := fun c => do
  let (item, c) ← plainItem verbose c
  let c := c.skip verbose
  match c.rest with
  | [] => .error (unclosedClass frames c)
  | d :: _ =>
    if d ≠ '-' ∨ c.peek? verbose = some ']' ∨ c.peek? verbose = some '-' then
      return (← item.toClass, c)
    else
      let c := c.advance verbose
      if c.rest.isEmpty then .error (unclosedClass frames c)
      else
        let (other, c) ← plainItem verbose c
        let first ← item.toBoundary
        let last ← other.toBoundary
        if first.char ≤ last.char then return (.range first last, c)
        else fault .classRangeInvalid ⟨item.span.first, other.span.last⟩

def setOperator? : List Char → Option SetOperator
  | '&' :: '&' :: _ => some .intersection
  | '-' :: '-' :: _ => some .difference
  | '~' :: '~' :: _ => some .symmetricDifference
  | _ => none

/-- Reads a class from its opening bracket on. `frames` are open, the innermost first, and `items`
stand side by side so far from `place` on, the last first. -/
def classBody (verbose : Bool) :
    Nat → List ClassFrame → Span → List ClassSyntax → Reader ClassSyntax
  | 0, frames, _, _, c => .error (unclosedClass frames c)
  | fuel + 1, frames, place, items, c =>
    let c := c.skip verbose
    match c.rest with
    | [] => .error (unclosedClass frames c)
    | '[' :: _ =>
      match if frames.isEmpty then none else namedClass? c with
      | some (named, after) => classBody verbose fuel frames place (named :: items) after
      | none => do
        let ((negated, span, inner), after) ← openClass verbose c
        classBody verbose fuel (.bracket items negated span :: frames) (.at span.last) inner after
    | ']' :: _ =>
      match closeOperation (.ofItems place items) frames with
      | (body, .bracket before negated span :: frames) =>
        let closed : ClassSyntax := .bracketed negated ⟨span.first, c.next.place⟩ body
        if frames.isEmpty then .ok (closed, c.next)
        else classBody verbose fuel frames c.here (closed :: before) c.next
      | (_, frames) => .error (unclosedClass frames c)
    | _ =>
      match setOperator? c.rest with
      | some kind =>
        let (left, frames) := closeOperation (.ofItems place items) frames
        let after := c.drop 2
        classBody verbose fuel (.operand kind left :: frames) after.here [] after
      | none => do
        let (item, after) ← classRange verbose frames c
        classBody verbose fuel frames place (item :: items) after

def characterClass (verbose : Bool) : Reader ClassSyntax := fun c =>
  classBody verbose (c.rest.length + 1) [] c.here [] c

end DiscountTables.Pattern
