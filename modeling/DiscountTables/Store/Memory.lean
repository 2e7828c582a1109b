import DiscountTables.Store.Basic
import DiscountTables.Store.FiniteMap

/-!
A store in memory. It counts the calls of each operation, and it can be switched offline, when every
operation fails; calls count all the same.
-/

namespace DiscountTables

open Calendar

structure StoredObject (α : Type) where
  content : α
  modified : Instant
  deriving DecidableEq, Repr

structure StoreCalls where
  list : Nat := 0
  head : Nat := 0
  get : Nat := 0
  copy : Nat := 0
  deriving DecidableEq, Repr

structure MemoryStore {α : Type} (f : Fingerprint α) where
  objects : FiniteMap String (StoredObject α) := .empty
  offline : Bool := false
  calls : StoreCalls := {}
  clock : Clock

namespace MemoryStore

variable {α : Type} {f : Fingerprint α}

def putAt (s : MemoryStore f) (key : String) (content : α) (modified : Instant) : MemoryStore f :=
  { s with objects := s.objects.insert key ⟨content, modified⟩ }

def put (s : MemoryStore f) (key : String) (content : α) : MemoryStore f :=
  { s.putAt key content s.clock.now with clock := s.clock.next }

def setOffline (s : MemoryStore f) (offline : Bool) : MemoryStore f := { s with offline }

def contents? (s : MemoryStore f) (key : String) : Option α := (s.objects.get? key).map (·.content)

def call (count : StoreCalls → StoreCalls) : StoreAction (MemoryStore f) StoreError Unit := do
  modify fun s => { s with calls := count s.calls }
  if (← get).offline then throw (.transport "memory store is offline")

def lookup (key : String) : StoreAction (MemoryStore f) StoreError (StoredObject α) := do
  match (← get).objects.get? key with
  | some o => return o
  | none => throw (.notFound key)

def list (start : String) : StoreAction (MemoryStore f) StoreError (List ObjectInfo) := do
  call fun c => { c with list := c.list + 1 }
  return ((← get).objects.sorted.filter fun e => start.toList.isPrefixOf e.1.toList).map fun e =>
    ⟨e.1, e.2.modified, some (f.tag e.2.content)⟩

def head (key : String) : StoreAction (MemoryStore f) StoreError String := do
  call fun c => { c with head := c.head + 1 }
  return f.tag (← lookup key).content

def fetch (key : String) : StoreAction (MemoryStore f) StoreError (Fetched α) := do
  call fun c => { c with get := c.get + 1 }
  let o ← lookup key
  return ⟨o.content, f.tag o.content⟩

/-- A copy is a new write, but it is never older than what it copies. -/
def copy (source target : String) : StoreAction (MemoryStore f) StoreError Unit := do
  call fun c => { c with copy := c.copy + 1 }
  let o ← lookup source
  modify fun s =>
    { s.putAt target o.content (max o.modified s.clock.now) with clock := s.clock.next }

instance : ObjectStore (MemoryStore f) α where
  list := list
  head := head
  get := fetch
  copy := copy

end MemoryStore

end DiscountTables
