import DiscountTables.Unicode.CharSet

/-!
Runs of characters in UTF-8. Characters whose bytes vary independently, each in a range of its own, make
up a sequence of byte ranges; every run splits into a few of these.
-/

namespace DiscountTables.Unicode

structure ByteRange where
  first : Nat
  last : Nat
  deriving DecidableEq, Repr

abbrev ByteSequence := List ByteRange

/-- The sequences for the numbers from `a` to `b`, of which the last `k` bytes hold six bits each and
the first byte, counted from `lead`, holds the rest. -/
def byteSequences (lead : Nat) : Nat → Nat → Nat → List ByteSequence
  | 0, a, b => [[⟨lead + a, lead + b⟩]]
  | k + 1, a, b =>
    let unit := 1 <<< (6 * (k + 1))
    let among (first last lowFirst lowLast : Nat) : List ByteSequence :=
      (byteSequences 0x80 k lowFirst lowLast).map (⟨lead + first, lead + last⟩ :: ·)
    let (highA, lowA) := (a / unit, a % unit)
    let (highB, lowB) := (b / unit, b % unit)
    if highA = highB then among highA highA lowA lowB
    else
      let first := if lowA = 0 then highA else highA + 1
      let last := if lowB = unit - 1 then highB else highB - 1
      (if lowA = 0 then [] else among highA highA lowA (unit - 1)) ++
        (if first ≤ last then among first last 0 (unit - 1) else []) ++
        (if lowB = unit - 1 then [] else among highB highB 0 lowB)

def encodings : List (Nat × Nat × Nat × Nat) :=
  [(0, 0x7F, 0, 0), (0x80, 0x7FF, 0xC0, 1), (0x800, 0xFFFF, 0xE0, 2), (0x10000, 0x10FFFF, 0xF0, 3)]

def byteSequencesOfRun (run : Nat × Nat) : List ByteSequence :=
  encodings.flatMap fun (least, most, lead, k) =>
    let (a, b) := (max run.1 least, min run.2 most)
    if a ≤ b then byteSequences lead k a b else []

namespace CharSet

def byteSequences (s : CharSet) : List ByteSequence := s.runs.flatMap byteSequencesOfRun

def isAscii (s : CharSet) : Bool := s.changes.all (· ≤ 0x80)

end CharSet

def branches : List ByteSequence → List (ByteRange × List ByteSequence)
  | [] => []
  | [] :: rest => branches rest
  | (r :: tail) :: rest =>
    match branches rest with
    | (r', tails) :: more => if r = r' then (r, tail :: tails) :: more else (r, [tail]) :: (r', tails) :: more
    | [] => [(r, [tail])]

/-- The sets of sequences that can still follow, from the start and after each sequence of ranges up
to `depth` long; where nothing can follow there is none. -/
def remainders : Nat → List ByteSequence → List (List ByteSequence)
  | 0, _ => []
  | depth + 1, sequences =>
    match branches sequences with
    | [] => []
    | found => sequences :: found.flatMap fun branch => remainders depth branch.2

end DiscountTables.Unicode
