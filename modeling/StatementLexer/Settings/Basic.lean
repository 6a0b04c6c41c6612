import StatementLexer.Session.Options
import StatementLexer.Toml.Reader

/-! # Settings

What a settings file can say: whether to log, and how tokens are listed. Members of other names are
left alone, and a missing member has its default.
-/

namespace StatementLexer

structure OutputSettings where
  format : OutputFormat := .text
  summary : Bool := false
  deriving DecidableEq, Repr, Inhabited

structure Settings where
  verbose : Bool := false
  output : OutputSettings := {}
  deriving DecidableEq, Repr, Inhabited

open Toml (Value)

def Settings.boolean? (default : Bool) : Option Value → Option Bool
  | none => some default
  | some (.boolean b) => some b
  | some _ => none

namespace OutputSettings

/-- A format is named by a text, or by the only member of a table if that member is empty. -/
def format? : Option Value → Option OutputFormat
  | none => some .text
  | some (.text s) => OutputFormat.ofLabel? s
  | some (.table [(key, v)]) => if v.isEmpty then OutputFormat.ofLabel? key else none
  | some _ => none

/-- The settings in a table, or in an array by position. A time counts as a table without members of
use. -/
def ofToml? : Value → Option OutputSettings
  | .table members => do
      return ⟨← format? (Value.find? members "format"),
        ← Settings.boolean? false (Value.find? members "summary")⟩
  | .array items => do
      return ⟨← format? items[0]?, ← Settings.boolean? false items[1]?⟩
  | .time => some {}
  | _ => none

end OutputSettings

namespace Settings

def ofMembers? (members : List (String × Value)) : Option Settings := do
  let verbose ← boolean? false (Value.find? members "verbose")
  let output ← match Value.find? members "output" with
    | none => some {}
    | some v => OutputSettings.ofToml? v
  return ⟨verbose, output⟩

def text (s : Settings) : String :=
  "verbose = " ++ toString s.verbose ++ "\n\n[output]\nformat = \"" ++ s.output.format.label ++
    "\"\nsummary = " ++ toString s.output.summary ++ "\n"

def options (s : Settings) (files : List String) : Options :=
  ⟨files, s.output.format, s.output.summary⟩

end Settings

end StatementLexer
