import DiscountTables.Calendar

/-!
Stores of documents: objects under keys, which can be listed, asked for the tag of their version,
fetched and copied. Every operation may change the state of the store.
-/

namespace DiscountTables

open Calendar

inductive FileError where
  | notFound
  | notADirectory
  | isADirectory
  | alreadyExists
  | nameTooLong
  | nulInName
  | notARegularFile
  | invalidUtf8
  deriving DecidableEq, Repr

def FileError.message : FileError → String
  | notFound => "No such file or directory (os error 2)"
  | notADirectory => "Not a directory (os error 20)"
  | isADirectory => "Is a directory (os error 21)"
  | alreadyExists => "File exists (os error 17)"
  | nameTooLong => "File name too long (os error 36)"
  | nulInName => "file name contained an unexpected NUL byte"
  | notARegularFile => "the source path is neither a regular file nor a symlink to a regular file"
  | invalidUtf8 => "stream did not contain valid UTF-8"

inductive StoreError where
  | notFound (key : String)
  | invalidKey (key : String)
  | transport (reason : String)
  | file (e : FileError)
  deriving DecidableEq, Repr

def StoreError.message : StoreError → String
  | notFound key => "object not found: " ++ key
  | invalidKey key => "invalid object key: " ++ key
  | transport reason => "blob store unavailable: " ++ reason
  | file e => e.message

/-- An object in a listing. The tag is given where it is known without reading the object. -/
structure ObjectInfo where
  key : String
  modified : Instant
  versionTag : Option String
  deriving DecidableEq, Repr

structure Fetched (α : Type) where
  content : α
  versionTag : String
  deriving DecidableEq, Repr

abbrev StoreAction (σ : Type) (ε β : Type) := ExceptT ε (StateM σ) β

class ObjectStore (σ : Type) (α : outParam Type) where
  list : String → StoreAction σ StoreError (List ObjectInfo)
  head : String → StoreAction σ StoreError String
  get : String → StoreAction σ StoreError (Fetched α)
  copy : String → String → StoreAction σ StoreError Unit

structure Fingerprint (α : Type) where
  tag : α → String
  size : α → Nat

structure Clock where
  reading : Nat → Instant
  taken : Nat := 0

namespace Clock

def now (c : Clock) : Instant := c.reading c.taken

def next (c : Clock) : Clock := { c with taken := c.taken + 1 }

end Clock

end DiscountTables
