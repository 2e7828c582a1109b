import DiscountTables.Pattern.Syntax

/-!
How deeply a pattern is nested. Groups, repetitions, brackets and set operations are levels of their
own, and so are parts that follow each other and branches between bars, all of a row as one level.
-/

namespace DiscountTables.Pattern

def nestingLimit : Nat := 250

/-- The span of the first level for which there is no room, in reading order. `inRow` says that the
class goes on with a row of items whose level is counted. -/
def ClassSyntax.firstBeyond (room : Nat) (inRow : Bool) : ClassSyntax → Option Span
  | .bracketed _ span body =>
    match room with
    | 0 => some span
    | room + 1 => body.firstBeyond room false
  | .union span a b =>
    match inRow, room with
    | true, room => (a.firstBeyond room false).or (b.firstBeyond room true)
    | false, 0 => some span
    | false, room + 1 => (a.firstBeyond room false).or (b.firstBeyond room true)
  | .operation _ a b =>
    match room with
    | 0 => some ⟨a.span.first, b.span.last⟩
    | room + 1 => (a.firstBeyond room false).or (b.firstBeyond room false)
  | _ => none

@[inherit_doc ClassSyntax.firstBeyond]
def Expr.firstBeyond (room : Nat) (inRow : Bool) : Expr → Option Span
  | .characters c => c.firstBeyond room false
  | .group _ _ span body | .repetition _ span body =>
    match room with
    | 0 => some span
    | room + 1 => body.firstBeyond room false
  | .sequence span a b | .choice span a b =>
    match inRow, room with
    | true, room => (a.firstBeyond room false).or (b.firstBeyond room true)
    | false, 0 => some span
    | false, room + 1 => (a.firstBeyond room false).or (b.firstBeyond room true)
  | _ => none

end DiscountTables.Pattern
