import DiscountTables.Store.Basic
import DiscountTables.Toml.Reading
import DiscountTables.Wire.Mismatch

/-!
Settings of the reload cycle: where documents are, under which key the newest one is kept, and how often
to look. They are read from a TOML document, from its `rules` table if it has one.
-/

namespace DiscountTables

open Toml Wire

structure Settings where
  bucket : String := ""
  keyPrefix : String := "rules/"
  aliasKey : String := "rules/loyalty-discount-rules-latest.xlsx"
  pollMillis : Nat := 5000
  deriving DecidableEq, Repr

inductive SettingsError where
  | notToml
  | mismatch (m : Mismatch) (key : Option String)
  | file (e : FileError)
  | zeroInterval
  deriving DecidableEq, Repr

def SettingsError.message : SettingsError → String
  | notToml => "invalid reload configuration"
  | mismatch m key =>
    "invalid reload configuration: " ++ m.message ++ "\n" ++
      key.elim "" fun k => "in `" ++ k ++ "`\n"
  | file e => e.message
  | zeroInterval => "poll interval must be greater than zero"

namespace Settings

def check (s : Settings) : Except SettingsError Settings :=
  if s.pollMillis = 0 then .error .zeroInterval else .ok s

def keys : List String := ["bucket", "prefix", "alias_key", "poll_ms"]

def found : Value → Found
  | .string s | .datetime s => .string s
  | .integer n => .integer n
  | .number x => .number x.textWithPoint
  | .boolean b => .boolean b
  | .array _ => .sequence
  | .table _ => .map

def text : Value → Except Mismatch String
  | .string s | .datetime s => .ok s
  | v => .error (.invalidType (found v) "a string")

def natural : Value → Except Mismatch Nat
  | .integer n => if 0 ≤ n then .ok n.toNat else .error (.invalidValue (.integer n) "u64")
  | v => .error (.invalidType (found v) "u64")

def setEntry (s : Settings) (key : String) (v : Value) : Except SettingsError Settings :=
  let named := fun {α : Type} (r : Except Mismatch α) => r.mapError fun m => .mismatch m (some key)
  match key with
  | "bucket" => do return { s with bucket := ← named (text v) }
  | "prefix" => do return { s with keyPrefix := ← named (text v) }
  | "alias_key" => do return { s with aliasKey := ← named (text v) }
  | "poll_ms" => do return { s with pollMillis := ← named (natural v) }
  | _ => .error (.mismatch (.unknownField key keys) none)

def ofEntries (entries : List (String × Value)) : Except SettingsError Settings := do
  let s ← entries.foldlM (fun (s : Settings) (key, v) => s.setEntry key v) {}
  s.check

def relevant (document : List (String × Value)) : List (String × Value) :=
  match document.lookup "rules" with
  | some (.table entries) => entries
  | _ => document

def ofToml (document : List (String × Value)) : Except SettingsError Settings :=
  ofEntries (relevant document)

def read (document : String) : Except SettingsError Settings :=
  match Toml.read? document with
  | none => .error .notToml
  | some entries => ofToml entries

def ofFile (bytes : Option ByteArray) : Except SettingsError Settings :=
  match bytes with
  | none => .error (.file .notFound)
  | some bytes =>
    match String.fromUTF8? bytes with
    | none => .error (.file .invalidUtf8)
    | some document => read document

end Settings

end DiscountTables
