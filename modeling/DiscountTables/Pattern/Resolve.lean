import DiscountTables.Pattern.Node
import DiscountTables.Pattern.Reading
import DiscountTables.Unicode.CaseFold

/-!
From patterns as written to what they mean. Flags that a group sets hold up to its end; without
Unicode, only sets of ASCII characters can be named.
-/

namespace DiscountTables.Pattern

open Text Unicode

structure Flags where
  ignoreCase : Bool := false
  multiLine : Bool := false
  dotAll : Bool := false
  unicode : Bool := true
  crlf : Bool := false
  deriving DecidableEq, Repr

def Flags.apply (f : Flags) (changes : FlagChanges) : Flags where
  ignoreCase := (changes.get? .ignoreCase).getD f.ignoreCase
  multiLine := (changes.get? .multiLine).getD f.multiLine
  dotAll := (changes.get? .dotAll).getD f.dotAll
  unicode := (changes.get? .unicode).getD f.unicode
  crlf := (changes.get? .crlf).getD f.crlf

def Flags.fold (f : Flags) (s : CharSet) : CharSet :=
  if f.ignoreCase then CaseFold.close (if f.unicode then CaseFold.pairs else CaseFold.asciiPairs) s
  else s

/-- The complement of a set of ASCII characters is none, so without Unicode it is refused. -/
def Flags.complementIf (f : Flags) (negated : Bool) (span : Span) (s : CharSet) :
    Except Fault CharSet :=
  if negated && !f.unicode then fault .invalidUtf8 span
  else .ok ((f.fold s).complementIf negated)

def Literal.value (f : Flags) (l : Literal) : Except Fault Char :=
  if !f.unicode && l.byte && 128 ≤ l.char.toNat then fault .invalidUtf8 l.span else .ok l.char

def Literal.member (f : Flags) (l : Literal) : Except Fault Char := do
  let c ← l.value f
  if !f.unicode && 128 ≤ c.toNat then fault .unicodeNotAllowed l.span else return c

def resolveProperty (f : Flags) (query : PropertyQuery) (negated : Bool) (span : Span) :
    Except Fault CharSet :=
  if !f.unicode then fault .unicodeNotAllowed span
  else
    match query.set with
    | .error kind => fault kind span
    | .ok s => f.complementIf (negated != query.isNegated) span s

def SetOperator.apply : SetOperator → CharSet → CharSet → CharSet
  | .intersection => CharSet.inter
  | .difference => CharSet.diff
  | .symmetricDifference => CharSet.symmDiff

def ClassSyntax.resolve (f : Flags) : ClassSyntax → Except Fault CharSet
  | .nothing _ => .ok .empty
  | .literal l => do return .single (← l.member f)
  | .range first last => do return .between (← first.member f) (← last.member f)
  | .perl kind negated span =>
    if negated && !f.unicode then fault .invalidUtf8 span
    else .ok ((kind.set f.unicode).complementIf negated)
  | .ascii kind negated span => f.complementIf negated span kind.set
  | .property query negated span => resolveProperty f query negated span
  | .bracketed negated span body => do f.complementIf negated span (← body.resolve f)
  | .union _ a b => do return (← a.resolve f).union (← b.resolve f)
  | .operation kind a b => do return kind.apply (f.fold (← a.resolve f)) (f.fold (← b.resolve f))

def Flags.dot (f : Flags) : CharSet :=
  if f.dotAll then .all
  else if f.crlf then CharSet.complement (.union (.single '\n') (.single '\r'))
  else CharSet.complement (.single '\n')

def Flags.look (f : Flags) : Assertion → Look
  | .startLine => if f.multiLine then .startLine f.crlf else .start
  | .endLine => if f.multiLine then .finishLine f.crlf else .finish
  | .startText => .start
  | .endText => .finish
  | kind => .word f.unicode kind

def Expr.resolve (f : Flags) : Expr → Except Fault (Node × Flags)
  | .empty _ => .ok (.empty, f)
  | .flags changes _ => .ok (.empty, f.apply changes)
  | .literal l => do return (.set (f.fold (.single (← l.value f))), f)
  | .dot span => if f.unicode then .ok (.set f.dot, f) else fault .invalidUtf8 span
  | .assertion kind _ => .ok (.look (f.look kind), f)
  | .characters c => do return (.set (← c.resolve f), f)
  | .group changes captures _ body => do
    return (.group captures (← body.resolve (f.apply changes)).1, f)
  | .repetition count _ body => do
    let (node, f) ← body.resolve f
    return (.repetition count node, f)
  | .sequence _ a b => do
    let (a, f) ← a.resolve f
    let (b, f) ← b.resolve f
    return (.sequence a b, f)
  | .choice _ a b => do
    let (a, f) ← a.resolve f
    let (b, f) ← b.resolve f
    return (.choice a b, f)

def Node.read (pattern : String) : Except Fault Node := do
  let e ← Expr.read pattern
  return (← e.resolve {}).1

end DiscountTables.Pattern
