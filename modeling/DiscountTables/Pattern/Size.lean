import DiscountTables.Pattern.Outline
import DiscountTables.Text.Basic
import DiscountTables.Unicode.ByteSequence

/-!
How large a pattern is. It stands for two networks of states that read the bytes of a text, one forward
and one backward, and each of the two must fit into a limit. A state takes 32 bytes of memory, each
way on from a fork 4, and each range of a state with several ranges 8.
-/

namespace DiscountTables.Pattern

open Unicode

def sizeLimit : Nat := 10485760

def stateSize : Nat := 32

def forkSize (ways : Nat) : Nat := stateSize + 4 * ways

def rangesSize (ranges : Nat) : Nat := stateSize + 8 * ranges

inductive Direction where
  | forward
  | backward
  deriving DecidableEq, Repr

def Direction.order (d : Direction) (bytes : List UInt8) : List UInt8 :=
  match d with
  | .forward => bytes
  | .backward => bytes.reverse

/-- The states of a set and the end state of its ranges. Forward, equal remainders share a state;
backward, equal starts of byte sequences do. -/
def setSize (d : Direction) (s : CharSet) : Nat :=
  if s.isAscii then stateSize + rangesSize s.runs.length
  else
    let sequences := s.byteSequences
    match d with
    | .forward =>
      ((remainders 4 sequences).eraseDups.foldl (fun n rest => n + rangesSize (branches rest).length)
        stateSize)
    | .backward =>
      let starts := (remainders 4 sequences).foldl (fun n rest => n + (branches rest).length) 0
      stateSize * (starts + 1) + forkSize sequences.length

/-- Words of bytes that share a start, as they can follow it, in stages: a word that ends at the start
ends a stage, unless it ends the first one before anything follows. -/
structure Stages where
  done : List (List (UInt8 × List (List UInt8)))
  current : List (UInt8 × List (List UInt8))

namespace Stages

def insert (b : UInt8) (word : List UInt8) :
    List (UInt8 × List (List UInt8)) → List (UInt8 × List (List UInt8))
  | [] => [(b, [word])]
  | (c, words) :: rest =>
    if b = c then (c, words ++ [word]) :: rest else (c, words) :: insert b word rest

def add (k : Stages) : List UInt8 → Stages
  | [] =>
    if k.current.isEmpty && !k.done.isEmpty && k.done.all List.isEmpty then k
    else ⟨k.done ++ [k.current], []⟩
  | b :: word => { k with current := insert b word k.current }

def ofWords (words : List (List UInt8)) : Stages := words.foldl add ⟨[], []⟩

def all (k : Stages) : List (List (UInt8 × List (List UInt8))) := k.done ++ [k.current]

end Stages

/-- The states of words that share their starts, without the end state. A stage reads a byte; more than
one stage, or a word that ends here, takes a fork. -/
def wordsSize : Nat → List (List UInt8) → Nat
  | 0, _ => 0
  | depth + 1, words =>
    if words.all List.isEmpty then 0
    else
      let stages := (Stages.ofWords words).all
      let reading := stages.filter fun stage => !stage.isEmpty
      let ways := reading.length + (stages.length - 1)
      let here := (if ways = 1 then 0 else forkSize ways) +
        (reading.map fun stage =>
          if stage.length = 1 then stateSize else rangesSize stage.length).foldl (· + ·) 0
      reading.flatten.foldl (fun n branch => n + wordsSize depth branch.2) here

def utf8 (cs : List Char) : List UInt8 := (String.ofList cs).toUTF8.toList

namespace Outline

def texts? (branches : List Outline) : Option (List (List UInt8)) :=
  branches.mapM fun
    | .text [] => none
    | .text cs => some (utf8 cs)
    | _ => none

def repetitionSize (count : Count) (n : Nat) (nullable : Bool) : Nat :=
  match count with
  | ⟨0, some 1⟩ => forkSize 2 + n + stateSize
  | ⟨0, none⟩ => if nullable then n + forkSize 2 + forkSize 2 + stateSize else forkSize 2 + n
  | ⟨least, none⟩ => least * n + forkSize 2
  | ⟨least, some most⟩ =>
    if least = most then least * n
    else
      (if least = 0 then stateSize else least * n) + stateSize + (most - least) * (forkSize 2 + n)

mutual

def size (d : Direction) : Outline → Nat
  | .text cs => stateSize * max 1 (Text.utf8Length cs)
  | .set s => setSize d s
  | .look _ => stateSize
  | .group body => size d body + (if d = .forward then 2 * stateSize else 0)
  | .repetition count body =>
    repetitionSize count (size d body) ((leastLength body).all (· == 0))
  | .sequence parts => sizes d parts
  | .choice branches =>
    match texts? branches with
    | some words =>
      let words := words.map d.order
      stateSize + wordsSize (words.foldl (fun n w => max n w.length) 0) words
    | none => sizes d branches + forkSize branches.length + stateSize

def sizes (d : Direction) : List Outline → Nat
  | [] => 0
  | p :: rest => size d p + sizes d rest

end

/-- The size of a network: where it starts, what is captured forward, the pattern and the end. If a match
need not start at an end of the text, the network first skips any bytes. -/
def networkSize (d : Direction) (o : Outline) : Nat :=
  let anchored := if d = .forward then o.requires .start false else o.requires .finish true
  (if anchored then stateSize else forkSize 2 + (stateSize + rangesSize 1)) +
    (if d = .forward then 2 * stateSize else 0) + o.size d + stateSize

end Outline

def Node.fits (n : Node) : Bool :=
  let o := n.outline
  o.networkSize .forward ≤ sizeLimit && o.networkSize .backward ≤ sizeLimit

end DiscountTables.Pattern
