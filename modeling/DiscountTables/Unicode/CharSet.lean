import DiscountTables.Text.Basic

/-!
Sets of characters, kept as the code points at which membership changes.

A table of a set is a row of words. Each word gives, in hexadecimal, how many code points to leave
out since the last run of members and, after a colon, how many more than one the next run has:
`41:19 6:19` holds the letters A to Z and a to z.
-/

namespace DiscountTables.Unicode

open Text

/-- The changes stand in increasing order; the code points before the first are no members. -/
structure CharSet where
  changes : List Nat
  deriving DecidableEq, Repr

namespace CharSet

def holdsAfter (inside : Bool) (n : Nat) : List Nat → Bool
  | [] => inside
  | change :: rest => if n < change then inside else holdsAfter (!inside) n rest

def holds (s : CharSet) (n : Nat) : Bool := holdsAfter false n s.changes

def contains (s : CharSet) (c : Char) : Bool := s.holds c.toNat

def empty : CharSet := ⟨[]⟩

def single (c : Char) : CharSet := ⟨[c.toNat, c.toNat + 1]⟩

theorem contains_single (c d : Char) : (single c).contains d = (d == c) := by
  simp only [contains, holds, single, holdsAfter]
  by_cases h : d = c
  · subst h
    simp
  · have hn : d.toNat ≠ c.toNat := fun e => h (Char.toNat_inj.1 e)
    by_cases hlt : d.toNat < c.toNat
    · simp [hlt, h]
    · simp [hlt, h, show ¬ d.toNat < c.toNat + 1 by omega]

def all : CharSet := ⟨[0, 0xD800, 0xE000, 0x110000]⟩

/-- Walks along the changes of two sets. What `op` makes of the two memberships changes only where
one of them does; `fuel` bounds the changes that are left. -/
def sweep (op : Bool → Bool → Bool) : Nat → Bool → Bool → List Nat → List Nat → List Nat
  | 0, _, _, _, _ => []
  | fuel + 1, inS, inT, s, t =>
    match s, t with
    | [], [] => []
    | _, _ =>
      let here := min (s.head?.getD (t.headD 0)) (t.head?.getD (s.headD 0))
      let (nextInS, s) := if s.head? = some here then (!inS, s.tail) else (inS, s)
      let (nextInT, t) := if t.head? = some here then (!inT, t.tail) else (inT, t)
      let rest := sweep op fuel nextInS nextInT s t
      if op nextInS nextInT = op inS inT then rest else here :: rest

/-- The characters whose membership in two sets `op` maps to `true`; it must map twice `false` to
`false`. -/
def combine (op : Bool → Bool → Bool) (s t : CharSet) : CharSet :=
  ⟨sweep op (s.changes.length + t.changes.length) false false s.changes t.changes⟩

def union (s t : CharSet) : CharSet := combine (· || ·) s t
def inter (s t : CharSet) : CharSet := combine (· && ·) s t
def diff (s t : CharSet) : CharSet := combine (fun a b => a && !b) s t
def symmDiff (s t : CharSet) : CharSet := combine (· != ·) s t

def complement (s : CharSet) : CharSet := all.diff s

def complementIf (negated : Bool) (s : CharSet) : CharSet := if negated then s.complement else s

def unions (sets : List CharSet) : CharSet := sets.foldr union empty

def between (first last : Char) : CharSet := all.inter ⟨[first.toNat, last.toNat + 1]⟩

def changesOf : List Nat → List Nat
  | [] => []
  | n :: rest =>
    match changesOf rest with
    | [] => [n, n + 1]
    | next :: changes =>
      if next = n then next :: changes
      else if next = n + 1 then n :: changes
      else n :: (n + 1) :: next :: changes

def ofPoints (points : List Nat) : CharSet := ⟨changesOf points⟩

def runsOf : List Nat → List (Nat × Nat)
  | first :: next :: rest => (first, next - 1) :: runsOf rest
  | _ => []

def runs (s : CharSet) : List (Nat × Nat) := runsOf s.changes

def only? (s : CharSet) : Option Char :=
  match s.changes with
  | [n, m] => if m = n + 1 then some (Char.ofNat n) else none
  | _ => none

end CharSet

def tableWords (text : String) : List (List Nat) :=
  ((pieces (fun c => c == ' ' || c == '\n') text.toList).filter (· != [])).map fun word =>
    (pieces (· == ':') word).map fun field => digitsValue 16 (field.filterMap hexDigit?)

/-- The changes that follow from the words of a table; `next` is the code point after the last run. -/
def changesOfGaps (next : Nat) : List (List Nat) → List Nat
  | [] => []
  | word :: rest =>
    let first := next + word.headD 0
    let after := first + word.tail.headD 0 + 1
    first :: after :: changesOfGaps after rest

def CharSet.read (text : String) : CharSet := ⟨changesOfGaps 0 (tableWords text)⟩

end DiscountTables.Unicode
