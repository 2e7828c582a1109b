import DiscountTables.Text.Basic

/-!
Keys of a store that keeps its objects as files: paths from the root of the store, with a slash after
each directory. A key cannot lead out of the root.
-/

namespace DiscountTables

open Text

abbrev FilePath := List String

inductive KeyEnding where
  | plain
  | slash
  | dot
  deriving DecidableEq, Repr

structure PathKey where
  names : FilePath
  ending : KeyEnding
  deriving DecidableEq, Repr

namespace PathKey

def segments (key : String) : List (List Char) := pieces (· == '/') key.toList

/-- Empty segments and `.` stay where they are. -/
def isName (segment : List Char) : Bool := segment != [] && segment != ['.']

def isConfined (segments : List (List Char)) : Bool :=
  (segments.head?.elim false isName) && segments.all fun s => s != ['.', '.']

def endingOf (segments : List (List Char)) : KeyEnding :=
  if (segments.reverse.find? fun s => s != []) = some ['.'] then .dot
  else if segments.getLast? = some [] then .slash
  else .plain

def ofString? (key : String) : Option PathKey :=
  let segments := segments key
  if isConfined segments then
    some ⟨(segments.filter isName).map String.ofList, endingOf segments⟩
  else none

def text (path : FilePath) : String := "/".intercalate path

end PathKey

end DiscountTables
