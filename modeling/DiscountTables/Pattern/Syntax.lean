import DiscountTables.Pattern.Fault

namespace DiscountTables.Pattern

inductive Flag where
  | ignoreCase
  | multiLine
  | dotAll
  | swapGreed
  | unicode
  | crlf
  | verbose
  deriving DecidableEq, Repr

abbrev FlagChanges := List (Flag × Bool)

def FlagChanges.get? (changes : FlagChanges) (f : Flag) : Option Bool := changes.lookup f

inductive Assertion where
  | startLine
  | endLine
  | startText
  | endText
  | wordBoundary
  | notWordBoundary
  | wordStart
  | wordEnd
  | wordStartHalf
  | wordEndHalf
  deriving DecidableEq, Repr

inductive PerlClass where
  | digit
  | space
  | word
  deriving DecidableEq, Repr

inductive AsciiClass where
  | alnum
  | alpha
  | ascii
  | blank
  | cntrl
  | digit
  | graph
  | lower
  | print
  | punct
  | space
  | upper
  | word
  | xdigit
  deriving DecidableEq, Repr

inductive PropertyQuery where
  | letter (c : Char)
  | named (name : String)
  | valued (name value : String) (negated : Bool)
  deriving DecidableEq, Repr

/-- A character, written out or escaped. `byte` says that it was given as two hexadecimal digits,
which stand for a byte where Unicode is off. -/
structure Literal where
  char : Char
  byte : Bool
  span : Span
  deriving DecidableEq, Repr

inductive SetOperator where
  | intersection
  | difference
  | symmetricDifference
  deriving DecidableEq, Repr

inductive ClassSyntax where
  | nothing (span : Span)
  | literal (l : Literal)
  | range (first last : Literal)
  | perl (kind : PerlClass) (negated : Bool) (span : Span)
  | ascii (kind : AsciiClass) (negated : Bool) (span : Span)
  | property (query : PropertyQuery) (negated : Bool) (span : Span)
  | bracketed (negated : Bool) (span : Span) (body : ClassSyntax)
  | union (span : Span) (a b : ClassSyntax)
  | operation (kind : SetOperator) (a b : ClassSyntax)
  deriving DecidableEq, Repr

def ClassSyntax.span : ClassSyntax → Span
  | nothing s | perl _ _ s | ascii _ _ s | property _ _ s | bracketed _ s _ | union s _ _ => s
  | literal l => l.span
  | range first last => ⟨first.span.first, last.span.last⟩
  | operation _ a b => ⟨a.span.first, b.span.last⟩

structure Count where
  least : Nat
  most : Option Nat
  deriving DecidableEq, Repr

def Count.Valid (c : Count) : Prop := ∀ most ∈ c.most, c.least ≤ most

instance (c : Count) : Decidable c.Valid := inferInstanceAs (Decidable (∀ most ∈ c.most, c.least ≤ most))

inductive Expr where
  | empty (span : Span)
  | flags (changes : FlagChanges) (span : Span)
  | literal (l : Literal)
  | dot (span : Span)
  | assertion (kind : Assertion) (span : Span)
  | characters (c : ClassSyntax)
  | group (changes : FlagChanges) (captures : Bool) (span : Span) (body : Expr)
  | repetition (count : Count) (span : Span) (body : Expr)
  | sequence (span : Span) (a b : Expr)
  | choice (span : Span) (a b : Expr)
  deriving DecidableEq, Repr

namespace Expr

def span : Expr → Span
  | empty s | flags _ s | dot s | assertion _ s | group _ _ s _ | repetition _ s _ => s
  | sequence s _ _ | choice s _ _ => s
  | literal l => l.span
  | characters c => c.span

def ofParts (span : Span) : List Expr → Expr
  | [] => .empty span
  | e :: rest => rest.foldl (fun tail part => .sequence span part tail) e

def ofBranches (span : Span) (last : Expr) (before : List Expr) : Expr :=
  before.foldl (fun tail branch => .choice span branch tail) last

end Expr

end DiscountTables.Pattern
