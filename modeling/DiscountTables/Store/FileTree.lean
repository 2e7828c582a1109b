import DiscountTables.Calendar
import DiscountTables.Store.Basic
import DiscountTables.Store.FiniteMap
import DiscountTables.Store.PathKey
import DiscountTables.Text.Basic

/-!
Trees of files. A tree may lack even its root. Looking a path up goes down from the root, and the first
obstacle is the answer.
-/

namespace DiscountTables

open Calendar

inductive FileNode (α : Type) where
  | file (content : α) (modified : Instant)
  | directory
  deriving DecidableEq, Repr

/-- Whatever has something below it is a directory. -/
structure FileTree (α : Type) where
  nodes : FiniteMap FilePath (FileNode α)
  closed : ∀ path name, nodes.get? (path ++ [name]) ≠ none → nodes.get? path = some .directory

namespace FileTree

variable {α : Type}

def node? (t : FileTree α) (path : FilePath) : Option (FileNode α) := t.nodes.get? path

def isDirectory (t : FileTree α) (path : FilePath) : Bool :=
  match t.node? path with
  | some .directory => true
  | _ => false

theorem isDirectory_iff (t : FileTree α) (path : FilePath) :
    t.isDirectory path = true ↔ t.nodes.get? path = some .directory := by
  rw [isDirectory, node?]
  split <;> simp_all

def empty : FileTree α where
  nodes := .insert .empty [] .directory
  closed path name := by simp [FiniteMap.get?_insert]

def hasRoomFor (t : FileTree α) (path : FilePath) (node : FileNode α) : Bool :=
  (path.isEmpty || t.isDirectory path.dropLast) &&
    match node with
    | .directory => true
    | .file .. => !t.isDirectory path

theorem closed_insert (t : FileTree α) (path : FilePath) (node : FileNode α)
    (h : t.hasRoomFor path node = true) (p : FilePath) (name : String)
    (hp : (t.nodes.insert path node).get? (p ++ [name]) ≠ none) :
    (t.nodes.insert path node).get? p = some .directory := by
  rw [FiniteMap.get?_insert] at hp ⊢
  simp only [hasRoomFor, Bool.and_eq_true, Bool.or_eq_true, List.isEmpty_iff] at h
  by_cases hpath : p ++ [name] = path
  · subst hpath
    have hd := (t.isDirectory_iff p).1 (by simpa using h.1)
    simpa using hd
  · rw [if_neg hpath] at hp
    have hd := t.closed p name hp
    by_cases hself : p = path
    · subst hself
      cases node with
      | directory => simp
      | file => simp [(t.isDirectory_iff p).2 hd] at h
    · rw [if_neg hself]
      exact hd

def put (t : FileTree α) (path : FilePath) (node : FileNode α) : FileTree α :=
  if h : t.hasRoomFor path node = true then ⟨t.nodes.insert path node, t.closed_insert path node h⟩ else t

def remove (t : FileTree α) (path : FilePath) : FileTree α where
  nodes := t.nodes.restrict fun p => !path.isPrefixOf p
  closed p name h := by
    rw [FiniteMap.get?_restrict] at h ⊢
    by_cases hp : path.isPrefixOf p = true
    · have : path.isPrefixOf (p ++ [name]) = true := by
        rw [List.isPrefixOf_iff_prefix] at hp ⊢
        exact hp.trans (List.prefix_append p [name])
      simp [this] at h
    · simp only [hp]
      refine t.closed p name ?_
      intro hn
      simp [hn] at h

def entriesIn (t : FileTree α) (directory : FilePath) : List (FilePath × FileNode α) :=
  t.nodes.entries.filter fun e => e.1 != [] && e.1.dropLast == directory

def filesAmong (entries : List (FilePath × FileNode α)) : List (FilePath × α × Instant) :=
  entries.filterMap fun
    | (path, .file content modified) => some (path, content, modified)
    | (_, .directory) => none

def directoriesAmong (entries : List (FilePath × FileNode α)) : List FilePath :=
  entries.filterMap fun
    | (_, .file ..) => none
    | (path, .directory) => some path

/-- Goes through directories that are pending, the one found last before the others; those found in it become
pending as well. The number of steps is bounded. -/
def filesFrom (t : FileTree α) : Nat → List FilePath → List (FilePath × α × Instant)
  | _, [] => []
  | 0, _ :: _ => []
  | steps + 1, directory :: pending =>
    let found := t.entriesIn directory
    filesAmong found ++ t.filesFrom steps ((directoriesAmong found).reverse ++ pending)

/-- The files, each with its path. No directory is pending twice, so a step for each node is enough. -/
def files (t : FileTree α) : List (FilePath × α × Instant) := t.filesFrom t.nodes.entries.length [[]]

def maxNameBytes : Nat := 255

def isTooLong (name : String) : Bool := maxNameBytes < Text.utf8Length name.toList

def hasNul (path : FilePath) : Bool := path.any fun name => name.toList.contains '\x00'

def descend (t : FileTree α) (from_ : FilePath) : FilePath → Except FileError (FileNode α)
  | [] =>
    match t.node? from_ with
    | some n => .ok n
    | none => .error .notFound
  | name :: rest =>
    match t.node? from_ with
    | none => .error .notFound
    | some (.file ..) => .error .notADirectory
    | some .directory =>
      if isTooLong name then .error .nameTooLong else t.descend (from_ ++ [name]) rest

def find (t : FileTree α) (path : FilePath) : Except FileError (FileNode α) :=
  if hasNul path then .error .nulInName else t.descend [] path

def locate (t : FileTree α) (key : PathKey) : Except FileError (FileNode α) :=
  match t.find key.names, key.ending with
  | .ok (.file ..), .slash | .ok (.file ..), .dot => .error .notADirectory
  | r, _ => r

def checkWritable (t : FileTree α) (key : PathKey) : Except FileError Unit :=
  if hasNul key.names then .error .nulInName
  else
    match key.ending, t.find key.names with
    | .slash, _ => .error .isADirectory
    | _, .ok .directory => .error .isADirectory
    | .plain, .ok (.file ..) => .ok ()
    | .plain, .error .notFound => .ok ()
    | .dot, .ok (.file ..) => .error .notADirectory
    | _, .error e => .error e

def makeDirectory (path : FilePath) (last : Bool) : StoreAction (FileTree α) FileError Unit := do
  match (← get).node? path with
  | some (.file ..) => throw (if last then .alreadyExists else .notADirectory)
  | _ => modify fun t => t.put path .directory

/-- Makes directories from one path down by more names; those before an obstacle are made all the
same. -/
def makeDirectoriesFrom (path : FilePath) : FilePath → StoreAction (FileTree α) FileError Unit
  | [] => makeDirectory path true
  | name :: rest => do
    makeDirectory path false
    if isTooLong name then throw .nameTooLong
    makeDirectoriesFrom (path ++ [name]) rest

def makeDirectories (path : FilePath) : StoreAction (FileTree α) FileError Unit := do
  if hasNul path then throw .nulInName
  makeDirectoriesFrom [] path

end FileTree

end DiscountTables
