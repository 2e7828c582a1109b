import DiscountTables.Store.FileTree

/-!
A store in a tree of files. The tag of a file is remembered together with its time of modification and
its size, and trusted as long as they stay: a file that is written again with the same time and size keeps
its old tag until it is read again.
-/

namespace DiscountTables

open Calendar

structure FileStamp where
  modified : Instant
  size : Nat
  deriving DecidableEq, Repr

structure RememberedTag where
  stamp : FileStamp
  tag : String
  deriving DecidableEq, Repr

structure DirectoryStore {α : Type} (f : Fingerprint α) where
  tree : FileTree α := .empty
  remembered : FiniteMap FilePath RememberedTag := .empty
  clock : Clock

namespace DirectoryStore

variable {α : Type} {f : Fingerprint α}

/-- Runs a change of the tree; what it changed before it failed stays changed. -/
def onTree {ε : Type} (change : StoreAction (FileTree α) ε Unit) :
    StoreAction (DirectoryStore f) ε Unit := do
  let (r, tree) := change.run (← get).tree
  modify fun s => { s with tree }
  liftExcept r
where
  liftExcept : Except ε Unit → StoreAction (DirectoryStore f) ε Unit
    | .ok () => return
    | .error e => throw e

def pathKey (key : String) : StoreAction (DirectoryStore f) StoreError PathKey :=
  match PathKey.ofString? key with
  | some k => return k
  | none => throw (.invalidKey key)

def missing (key : String) : FileError → StoreError
  | .notFound => .notFound key
  | e => .file e

def locate (key : String) (k : PathKey) : StoreAction (DirectoryStore f) StoreError (FileNode α) := do
  match (← get).tree.locate k with
  | .ok n => return n
  | .error e => throw (missing key e)

def stampOf (f : Fingerprint α) (content : α) (modified : Instant) : FileStamp :=
  ⟨modified, f.size content⟩

def remembered? (s : DirectoryStore f) (path : FilePath) (stamp : FileStamp) : Option String :=
  match s.remembered.get? path with
  | some r => if r.stamp = stamp then some r.tag else none
  | none => none

def readFile (key : String) : StoreAction (DirectoryStore f) StoreError (Fetched α) := do
  let k ← pathKey key
  match ← locate key k with
  | .directory => throw (.file .isADirectory)
  | .file content modified =>
    let tag := f.tag content
    modify fun s =>
      { s with remembered := s.remembered.insert k.names ⟨stampOf f content modified, tag⟩ }
    return ⟨content, tag⟩

def head (key : String) : StoreAction (DirectoryStore f) StoreError String := do
  let k ← pathKey key
  match ← locate key k with
  | .directory => throw (.file .isADirectory)
  | .file content modified =>
    match (← get).remembered? k.names (stampOf f content modified) with
    | some tag => return tag
    | none => return (← readFile key).versionTag

def list (start : String) : StoreAction (DirectoryStore f) StoreError (List ObjectInfo) := do
  let t := (← get).tree
  if t.isDirectory [] then
    let found := t.files.map fun (path, _, modified) => ObjectInfo.mk (PathKey.text path) modified none
    return (found.filter fun o => start.toList.isPrefixOf o.key.toList).mergeSort fun a b =>
      a.key ≤ b.key
  else throw (.file .notFound)

/-- Copies a file into a new or emptied one; a file copied onto itself is emptied before it is read. The
directories above the copy are made before anything else. -/
def copy [EmptyCollection α] (source target : String) :
    StoreAction (DirectoryStore f) StoreError Unit := do
  let sourceKey ← pathKey source
  let targetKey ← pathKey target
  (onTree (FileTree.makeDirectories targetKey.names.dropLast)).adapt .file
  match ← locate source sourceKey with
  | .directory => throw (.file .notARegularFile)
  | .file content _ =>
    match (← get).tree.checkWritable targetKey with
    | .error e => throw (missing source e)
    | .ok () =>
      let copied := if sourceKey.names = targetKey.names then ∅ else content
      modify fun s => { s with
        tree := s.tree.put targetKey.names (.file copied s.clock.now)
        clock := s.clock.next }

instance [EmptyCollection α] : ObjectStore (DirectoryStore f) α where
  list := list
  head := head
  get := readFile
  copy := copy

/-! What others do to the files, past the store. -/

/-- Writes a file, modified at a given time. File systems know no leap seconds. -/
def writeFileAt (key : PathKey) (content : α) (modified : Instant) :
    StoreAction (DirectoryStore f) FileError Unit := do
  onTree (FileTree.makeDirectories key.names.dropLast)
  match (← get).tree.checkWritable key with
  | .error e => throw e
  | .ok () =>
    modify fun s => { s with tree := s.tree.put key.names (.file content modified.withoutLeap) }

def writeFile (key : PathKey) (content : α) : StoreAction (DirectoryStore f) FileError Unit := do
  writeFileAt key content (← get).clock.now
  modify fun s => { s with clock := s.clock.next }

def makeDirectories (path : FilePath) : StoreAction (DirectoryStore f) FileError Unit :=
  onTree (FileTree.makeDirectories path)

def remove (s : DirectoryStore f) (path : FilePath) : DirectoryStore f :=
  { s with tree := s.tree.remove path }

end DirectoryStore

end DiscountTables
