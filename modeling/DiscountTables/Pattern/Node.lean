import DiscountTables.Pattern.NamedSet

/-!
What patterns mean, once flags and names are resolved.

A node matches stretches of a text. The inductive relation `Spans` says which: `Spans t r i j` holds if
`r` matches the characters of `t` from position `i` up to `j`.
-/

namespace DiscountTables.Pattern

open Unicode

inductive Look where
  | start
  | finish
  | startLine (crlf : Bool)
  | finishLine (crlf : Bool)
  | word (unicode : Bool) (kind : Assertion)
  deriving DecidableEq, Repr

/-- Groups matter for the size of a pattern alone. -/
inductive Node where
  | empty
  | set (s : CharSet)
  | look (l : Look)
  | group (captures : Bool) (body : Node)
  | sequence (a b : Node)
  | choice (a b : Node)
  | repetition (count : Count) (body : Node)
  deriving DecidableEq, Repr

def Assertion.boundary (kind : Assertion) (before after : Bool) : Bool :=
  match kind with
  | .wordBoundary => before != after
  | .notWordBoundary => before == after
  | .wordStart => !before && after
  | .wordEnd => before && !after
  | .wordStartHalf => !before
  | .wordEndHalf => !after
  | _ => false

def Look.holds (l : Look) (before after : Option Char) : Bool :=
  match l with
  | .start => before.isNone
  | .finish => after.isNone
  | .startLine crlf =>
    before.isNone || before == some '\n' || (crlf && before == some '\r' && after != some '\n')
  | .finishLine crlf =>
    if crlf then
      after.isNone || after == some '\r' || (after == some '\n' && before != some '\r')
    else after.isNone || after == some '\n'
  | .word unicode kind =>
    let isWordChar := (PerlClass.word.set unicode).contains
    kind.boundary (before.any isWordChar) (after.any isWordChar)

def charBefore (t : List Char) (i : Nat) : Option Char := if i = 0 then none else t[i - 1]?

inductive Spans (t : List Char) : Node → Nat → Nat → Prop where
  | empty {i : Nat} (hi : i ≤ t.length) : Spans t .empty i i
  | set {s : CharSet} {i : Nat} {c : Char} (hc : t[i]? = some c) (hs : s.contains c = true) :
      Spans t (.set s) i (i + 1)
  | look {l : Look} {i : Nat} (hi : i ≤ t.length) (hl : l.holds (charBefore t i) t[i]? = true) :
      Spans t (.look l) i i
  | group {captures : Bool} {body : Node} {i j : Nat} (hb : Spans t body i j) :
      Spans t (.group captures body) i j
  | sequence {a b : Node} {i j k : Nat} (ha : Spans t a i j) (hb : Spans t b j k) :
      Spans t (.sequence a b) i k
  | left {a b : Node} {i j : Nat} (ha : Spans t a i j) : Spans t (.choice a b) i j
  | right {a b : Node} {i j : Nat} (hb : Spans t b i j) : Spans t (.choice a b) i j
  | done {body : Node} {most : Option Nat} {i : Nat} (hi : i ≤ t.length) :
      Spans t (.repetition ⟨0, most⟩ body) i i
  | more {body : Node} {least : Nat} {most : Option Nat} {i j k : Nat}
      (hm : ∀ m ∈ most, 0 < m) (hb : Spans t body i j)
      (hr : Spans t (.repetition ⟨least - 1, most.map (· - 1)⟩ body) j k) :
      Spans t (.repetition ⟨least, most⟩ body) i k

end DiscountTables.Pattern
