import DiscountTables.Pattern.Node

/-!
Searching a text for a pattern. A set of positions is a number whose bits are its members, and a node
takes each set to the positions that its matches from there reach; no stretch is tried twice, whatever
the pattern repeats.
-/

namespace DiscountTables.Pattern

abbrev Positions := Nat

def Positions.ofChars (p : Char → Bool) : List Char → Positions
  | [] => 0
  | c :: rest => 2 * ofChars p rest + (p c).toNat

def Positions.between (p : Option Char → Option Char → Bool) (before : Option Char) :
    List Char → Positions
  | [] => (p before none).toNat
  | c :: rest => 2 * between p (some c) rest + (p before (some c)).toNat

/-- Applies `f` so many times; once nothing changes, nothing will. -/
def repeatExactly (f : Positions → Positions) : Nat → Positions → Positions
  | 0, s => s
  | n + 1, s =>
    let next := f s
    if next = s then s else repeatExactly f n next

def repeatUpTo (f : Positions → Positions) : Nat → Positions → Positions
  | 0, s => s
  | n + 1, s =>
    let next := s ||| f s
    if next = s then s else repeatUpTo f n next

def Node.reach (t : List Char) : Node → Positions → Positions
  | .empty, s => s
  | .set p, s => (s &&& .ofChars p.contains t) <<< 1
  | .look l, s => s &&& .between l.holds none t
  | .group _ body, s => body.reach t s
  | .sequence a b, s => b.reach t (a.reach t s)
  | .choice a b, s => a.reach t s ||| b.reach t s
  | .repetition ⟨least, most⟩ body, s =>
    let afterLeast := repeatExactly (body.reach t) least s
    repeatUpTo (body.reach t) (most.elim t.length (· - least)) afterLeast

def Node.occursIn (r : Node) (text : String) : Bool :=
  let t := text.toList
  r.reach t (1 <<< (t.length + 1) - 1) != 0

end DiscountTables.Pattern
