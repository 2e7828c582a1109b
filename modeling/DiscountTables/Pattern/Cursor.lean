import DiscountTables.Pattern.Fault
import DiscountTables.Text.Basic

namespace DiscountTables.Pattern

open Text

structure Cursor where
  place : Place
  rest : List Char
  deriving DecidableEq, Repr

namespace Cursor

def ofText (s : String) : Cursor := ⟨Place.start, s.toList⟩

def next (c : Cursor) : Cursor :=
  match c.rest with
  | [] => c
  | d :: rest => ⟨c.place.after d, rest⟩

def skipFrom (inComment : Bool) (p : Place) : List Char → Cursor
  | [] => ⟨p, []⟩
  | d :: rest =>
    if inComment then skipFrom (d != '\n') (p.after d) rest
    else if isBlank d then skipFrom false (p.after d) rest
    else if d = '#' then skipFrom true (p.after d) rest
    else ⟨p, d :: rest⟩

def skip (verbose : Bool) (c : Cursor) : Cursor :=
  if verbose then skipFrom false c.place c.rest else c

def advance (verbose : Bool) (c : Cursor) : Cursor := c.next.skip verbose

def drop (c : Cursor) (n : Nat) : Cursor := Nat.repeat next n c

def here (c : Cursor) : Span := .at c.place
def charSpan (c : Cursor) : Span := ⟨c.place, c.next.place⟩

def startsWith (c : Cursor) (word : String) : Bool := word.toList.isPrefixOf c.rest

def collect (verbose : Bool) (keep : Char → Bool) : Nat → List Char → Cursor → List Char × Cursor
  | 0, read, c => (read.reverse, c)
  | fuel + 1, read, c =>
    match c.rest with
    | [] => (read.reverse, c)
    | d :: _ =>
      if keep d then collect verbose keep fuel (d :: read) (c.advance verbose)
      else (read.reverse, c)

def takeWhile (verbose : Bool) (keep : Char → Bool) (c : Cursor) : List Char × Cursor :=
  collect verbose keep c.rest.length [] c

def peekBeyond (hashSeen : Bool) : List Char → Option Char
  | [] => none
  | d :: rest =>
    if isBlank d then peekBeyond hashSeen rest
    else if d = '#' && !hashSeen then peekBeyond true rest
    else some d

def peek? (verbose : Bool) (c : Cursor) : Option Char :=
  match c.rest with
  | [] => none
  | _ :: rest => if verbose then (peekBeyond false rest).or rest.head? else rest.head?

end Cursor

end DiscountTables.Pattern
