import DiscountTables.Pattern.Class
import DiscountTables.Pattern.Nesting
import DiscountTables.Unicode.Category
import DiscountTables.Unicode.Property

/-!
Reading patterns. The groups that are open are kept on a stack, each with what came before it, and
every step takes at least one character, so as many steps as characters are enough.
-/

namespace DiscountTables.Pattern

open Text Unicode

/-- What stands between the parentheses of a group, as far as it is read: the branches that are
complete and the parts of the current one, both last first, and where the first branch and the
current one start. -/
structure Content where
  first : Place
  branches : List Expr
  current : Place
  parts : List Expr

namespace Content

def start (p : Place) : Content := ⟨p, [], p, []⟩

def push (k : Content) (e : Expr) : Content := { k with parts := e :: k.parts }

def branch (k : Content) (last : Place) : Expr := .ofParts ⟨k.current, last⟩ k.parts

def toExpr (k : Content) (last : Place) : Expr :=
  .ofBranches ⟨k.first, last⟩ (k.branch last) k.branches

end Content

structure OpenGroup where
  around : Content
  changes : FlagChanges
  captures : Bool
  span : Span
  verbose : Bool

structure Progress where
  outer : List OpenGroup
  content : Content
  verbose : Bool
  names : List (String × Span)
  cursor : Cursor

namespace Progress

def start (c : Cursor) : Progress := ⟨[], .start c.place, false, [], c⟩

def push (p : Progress) (e : Expr) (after : Cursor) : Progress :=
  { p with content := p.content.push e, cursor := after }

end Progress

def flag? : Char → Option Flag
  | 'i' => some .ignoreCase
  | 'm' => some .multiLine
  | 's' => some .dotAll
  | 'U' => some .swapGreed
  | 'u' => some .unicode
  | 'R' => some .crlf
  | 'x' => some .verbose
  | _ => none

def flagChanges (items : List (Option Flag × Span)) : FlagChanges :=
  (items.foldl (fun (acc : FlagChanges × Bool) item =>
    match item.1 with
    | none => (acc.1, false)
    | some f => (acc.1 ++ [(f, acc.2)], acc.2)) ([], true)).1

def flagItems : Nat → List (Option Flag × Span) → Reader (List (Option Flag × Span))
  | 0, items, c => .ok (items, c)
  | fuel + 1, items, c =>
    match c.rest with
    | [] => fault .flagUnfinished c.here
    | d :: _ =>
      if d = ':' ∨ d = ')' then
        match items.getLast? with
        | some (none, span) => fault .flagDanglingNegation span
        | _ => .ok (items, c)
      else
        let span := c.charSpan
        let negation := d = '-'
        match flag? d with
        | none =>
          if negation then
            match items.find? fun item => item.1 == none with
            | some (_, earlier) => .error ⟨.flagRepeatedNegation, span, some earlier⟩
            | none => flagItems fuel (items ++ [(none, span)]) c.next
          else fault .flagUnrecognized span
        | some f =>
          match items.find? fun item => item.1 == some f with
          | some (_, earlier) => .error ⟨.flagDuplicate, span, some earlier⟩
          | none => flagItems fuel (items ++ [(some f, span)]) c.next

def isAlphabetic (c : Char) : Bool :=
  Property.alphabetic.contains c || Additions.alphabetic.contains c

def isNumeric (c : Char) : Bool :=
  (Category.number.any fun k => k.set.contains c) || Additions.number.contains c

def isAlphanumeric (c : Char) : Bool := isAlphabetic c || isNumeric c

def isGroupNamePart (first : Bool) (c : Char) : Bool :=
  if first then c == '_' || isAlphabetic c
  else c == '_' || c == '.' || c == '[' || c == ']' || isAlphanumeric c

def groupNameTail : Nat → List Char → Reader (List Char)
  | 0, read, c => .ok (read, c)
  | fuel + 1, read, c =>
    match c.rest with
    | [] => .ok (read, c)
    | d :: _ =>
      if d = '>' then .ok (read, c)
      else if isGroupNamePart read.isEmpty d then groupNameTail fuel (d :: read) c.next
      else fault .groupNameInvalid c.charSpan

def groupName (names : List (String × Span)) : Reader (String × Span) := fun c => do
  if c.rest.isEmpty then fault .groupNameUnfinished c.here
  else
    let (read, after) ← groupNameTail c.rest.length [] c
    if after.rest.isEmpty then fault .groupNameUnfinished after.here
    else if read.isEmpty then fault .groupNameEmpty c.here
    else
      let name := String.ofList read.reverse
      let span : Span := ⟨c.place, after.place⟩
      match names.lookup name with
      | some earlier => .error ⟨.groupNameDuplicate, span, some earlier⟩
      | none => return ((name, span), after.next)

def countBounds (verbose : Bool) (first : Place) : Reader Count := fun c =>
  if c.rest.isEmpty then fault .countUnclosed ⟨first, c.place⟩
  else
    let (least, c) := decimal verbose c
    match c.rest with
    | [] => fault .countUnclosed ⟨first, c.place⟩
    | ',' :: _ =>
      let c := c.advance verbose
      match c.rest with
      | [] => fault .countUnclosed ⟨first, c.place⟩
      | '\x7d' :: _ => least.map fun n => (⟨n, none⟩, c)
      | _ => do
        let least ← least
        let (most, c) := decimal verbose c
        return (⟨least, some (← most)⟩, c)
    | _ => least.map fun n => (⟨n, some n⟩, c)

def lookAroundSigns : List String := ["?=", "?!", "?<=", "?<!"]

namespace Progress

def openGroup (p : Progress) (changes : FlagChanges) (captures : Bool) (after : Cursor) : Progress :=
  { outer := ⟨p.content, changes, captures, p.cursor.charSpan, p.verbose⟩ :: p.outer
    content := .start after.place
    verbose := (changes.get? .verbose).getD p.verbose
    names := p.names
    cursor := after }

def parenthesis (p : Progress) : Except Fault Progress := do
  let first := p.cursor
  let c := first.advance p.verbose
  match lookAroundSigns.find? c.startsWith with
  | some sign => fault .lookAround ⟨first.place, (c.drop sign.length).place⟩
  | none =>
    if c.startsWith "?P<" ∨ c.startsWith "?<" then
      let (named, after) ← groupName p.names (c.drop (if c.startsWith "?P<" then 3 else 2))
      return { p.openGroup [] true after with names := named :: p.names }
    else if c.startsWith "?" then
      let inside := c.next
      if inside.rest.isEmpty then fault .groupUnclosed first.charSpan
      else
        let (items, after) ← flagItems (inside.rest.length + 1) [] inside
        let changes := flagChanges items
        if after.startsWith ")" then
          if items.isEmpty then fault .repetitionMissing c.here
          else
            return { p.push (.flags changes ⟨first.place, after.next.place⟩) after.next with
              verbose := (changes.get? .verbose).getD p.verbose }
        else return p.openGroup changes false after.next
    else return p.openGroup [] true c

def closeGroup (p : Progress) : Except Fault Progress :=
  match p.outer with
  | [] => fault .groupUnopened p.cursor.charSpan
  | g :: outer =>
    let after := p.cursor.next
    let span : Span := ⟨g.span.first, after.place⟩
    .ok { outer
          content := g.around.push (.group g.changes g.captures span (p.content.toExpr p.cursor.place))
          verbose := g.verbose
          names := p.names
          cursor := after }

def repeatable (p : Progress) : Except Fault (Expr × List Expr) :=
  match p.content.parts with
  | [] | .flags .. :: _ | .empty _ :: _ => fault .repetitionMissing p.cursor.here
  | e :: rest => .ok (e, rest)

def putRepetition (p : Progress) (count : Count) (e : Expr) (before : List Expr) (after : Cursor) :
    Progress :=
  let repeated : Expr := .repetition count ⟨e.span.first, after.place⟩ e
  { p with content := { p.content with parts := repeated :: before }, cursor := after }

def lazily (c : Cursor) : Cursor := if c.startsWith "?" then c.next else c

def repeated (p : Progress) (count : Count) : Except Fault Progress := do
  let (e, before) ← p.repeatable
  return p.putRepetition count e before (lazily p.cursor.next)

def counted (p : Progress) : Except Fault Progress := do
  let (e, before) ← p.repeatable
  let first := p.cursor.place
  let (count, c) ← countBounds p.verbose first (p.cursor.advance p.verbose)
  match c.rest with
  | '\x7d' :: _ =>
    let after := lazily (c.advance p.verbose)
    if count.Valid then return p.putRepetition count e before after
    else fault .countInvalid ⟨first, after.place⟩
  | _ => fault .countUnclosed ⟨first, c.place⟩

def bar (p : Progress) : Progress :=
  let after := p.cursor.next
  let k := p.content
  { p with
    content := ⟨k.first, k.branch p.cursor.place :: k.branches, after.place, []⟩
    cursor := after }

def step (p : Progress) (c : Char) : Except Fault Progress :=
  match c with
  | '(' => p.parenthesis
  | ')' => p.closeGroup
  | '|' => .ok p.bar
  | '[' => do
    let (e, after) ← characterClass p.verbose p.cursor
    return p.push (.characters e) after
  | '?' => p.repeated ⟨0, some 1⟩
  | '*' => p.repeated ⟨0, none⟩
  | '+' => p.repeated ⟨1, none⟩
  | '\x7b' => p.counted
  | '.' => .ok (p.push (.dot p.cursor.charSpan) p.cursor.next)
  | '^' => .ok (p.push (.assertion .startLine p.cursor.charSpan) p.cursor.next)
  | '$' => .ok (p.push (.assertion .endLine p.cursor.charSpan) p.cursor.next)
  | _ => do
    let (item, after) ← plainItem p.verbose p.cursor
    return p.push item.toExpr after

def finish (p : Progress) : Except Fault Expr :=
  match p.outer with
  | g :: _ => fault .groupUnclosed g.span
  | [] =>
    let e := p.content.toExpr p.cursor.place
    match e.firstBeyond nestingLimit false with
    | some span => fault .nestingExceeded span
    | none => .ok e

def run : Nat → Progress → Except Fault Expr
  | 0, p => p.finish
  | fuel + 1, p =>
    let p := { p with cursor := p.cursor.skip p.verbose }
    match p.cursor.rest with
    | [] => p.finish
    | c :: _ => do run fuel (← p.step c)

end Progress

def Expr.read (pattern : String) : Except Fault Expr :=
  let c := Cursor.ofText pattern
  Progress.run (c.rest.length + 1) (.start c)

end DiscountTables.Pattern
