import DiscountTables.Pattern.Node

/-!
What of a pattern decides its size: its parts side by side, with texts joined, choices among single
characters as sets, and what all branches of a choice start with taken out of it.
-/

namespace DiscountTables.Pattern

open Unicode

inductive Outline where
  | text (cs : List Char)
  | set (s : CharSet)
  | look (l : Look)
  | group (body : Outline)
  | repetition (count : Count) (body : Outline)
  | sequence (parts : List Outline)
  | choice (branches : List Outline)

namespace Outline

def nothing : Outline := .text []

mutual

def same : Outline → Outline → Bool
  | .text cs, .text ds => cs == ds
  | .set s, .set t => s == t
  | .look l, .look m => l == m
  | .repetition m a, .repetition n b => m == n && same a b
  | .sequence ps, .sequence qs => sameAll ps qs
  | .choice ps, .choice qs => sameAll ps qs
  | _, _ => false

def sameAll : List Outline → List Outline → Bool
  | [], [] => true
  | p :: ps, q :: qs => same p q && sameAll ps qs
  | _, _ => false

end

mutual

def matchesOnlyEmpty : Outline → Bool
  | .text cs => cs.isEmpty
  | .set _ => false
  | .look _ => true
  | .group body => matchesOnlyEmpty body
  | .repetition count body => count.most.isSome && matchesOnlyEmpty body
  | .sequence parts => allMatchOnlyEmpty parts
  | .choice branches => allMatchOnlyEmpty branches

def allMatchOnlyEmpty : List Outline → Bool
  | [] => true
  | p :: rest => matchesOnlyEmpty p && allMatchOnlyEmpty rest

end

mutual

def leastLength : Outline → Option Nat
  | .text cs => some cs.length
  | .set s => if s.changes.isEmpty then none else some 1
  | .look _ => some 0
  | .group body => leastLength body
  | .repetition count body => (leastLength body).map (count.least * ·)
  | .sequence parts => (leastLengths parts).map fun ns => ns.foldl (· + ·) 0
  | .choice branches => (leastLengths branches).bind List.min?

def leastLengths : List Outline → Option (List Nat)
  | [] => some []
  | p :: rest => (leastLength p).bind fun n => (leastLengths rest).map (n :: ·)

end

mutual

def requires (l : Look) (fromEnd : Bool) : Outline → Bool
  | .text _ | .set _ => false
  | .look m => m == l
  | .group body => requires l fromEnd body
  | .repetition count body => count.least != 0 && requires l fromEnd body
  | .sequence parts => sequenceRequires l fromEnd parts
  | .choice branches => allRequire l fromEnd branches

def sequenceRequires (l : Look) (fromEnd : Bool) : List Outline → Bool
  | [] => false
  | p :: rest =>
    if fromEnd then sequenceRequires l fromEnd rest || (allMatchOnlyEmpty rest && requires l fromEnd p)
    else requires l fromEnd p || (matchesOnlyEmpty p && sequenceRequires l fromEnd rest)

def allRequire (l : Look) (fromEnd : Bool) : List Outline → Bool
  | [] => true
  | p :: rest => requires l fromEnd p && allRequire l fromEnd rest

end

def ofSet (s : CharSet) : Outline :=
  match s.only? with
  | some c => .text [c]
  | none => .set s

def repeated (count : Count) (body : Outline) : Outline :=
  let count : Count :=
    if body.matchesOnlyEmpty then ⟨min count.least 1, some (min (count.most.getD 1) 1)⟩ else count
  if count = ⟨0, some 0⟩ then nothing
  else if count = ⟨1, some 1⟩ then body
  else .repetition count body

def joinTexts : List Outline → List Outline
  | [] => []
  | .text [] :: rest => joinTexts rest
  | .text cs :: rest =>
    match joinTexts rest with
    | .text ds :: more => .text (cs ++ ds) :: more
    | parts => .text cs :: parts
  | p :: rest => p :: joinTexts rest

def ofParts (parts : List Outline) : Outline :=
  match joinTexts (parts.flatMap fun
    | .sequence ps => ps
    | p => [p]) with
  | [] => nothing
  | [p] => p
  | ps => .sequence ps

def toSet? : Outline → Option CharSet
  | .text [c] => some (.single c)
  | .set s => some s
  | _ => none

def commonParts : List Outline → List Outline → Nat
  | p :: ps, q :: qs => if p.same q then commonParts ps qs + 1 else 0
  | _, _ => 0

def parts? : Outline → Option (List Outline)
  | .sequence ps => some ps
  | _ => none

def sharedParts (branches : List Outline) : Nat :=
  match branches.mapM parts? with
  | some (first :: rest) => rest.foldl (fun n parts => min n (commonParts first parts)) first.length
  | _ => 0

/-- A choice. Common parts at the start of all branches are taken out of it; what is left of the
branches may then be simpler, so up to `fuel` times. -/
def ofBranches : Nat → List Outline → Outline
  | 0, branches => .choice branches
  | fuel + 1, branches =>
    match branches.flatMap fun
      | .choice bs => bs
      | b => [b] with
    | [] => .set .empty
    | [b] => b
    | bs =>
      match bs.mapM toSet? with
      | some sets => ofSet (.unions sets)
      | none =>
        match sharedParts bs with
        | 0 => .choice bs
        | n =>
          let rests := bs.map fun b => ofParts ((b.parts?.getD []).drop n)
          let shared := ((bs.headD nothing).parts?.getD []).take n
          ofParts (shared ++ [ofBranches fuel rests])

end Outline

inductive Row where
  | parts
  | branches
  | alone
  deriving DecidableEq, Repr

def Node.outlines (row : Row) : Node → List Outline
  | .empty => [.nothing]
  | .set s => [.ofSet s]
  | .look l => [.look l]
  | .group captures body =>
    let inner := (body.outlines .alone).headD .nothing
    [if captures then .group inner else inner]
  | .repetition count body => [.repeated count ((body.outlines .alone).headD .nothing)]
  | .sequence a b =>
    let parts := a.outlines .alone ++ b.outlines .parts
    if row = .parts then parts else [.ofParts parts]
  | .choice a b =>
    let branches := a.outlines .alone ++ b.outlines .branches
    if row = .branches then branches else [.ofBranches (branches.length + 1) branches]

def Node.outline (n : Node) : Outline := (n.outlines .alone).headD .nothing

end DiscountTables.Pattern
