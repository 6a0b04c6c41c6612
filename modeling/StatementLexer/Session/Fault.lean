import StatementLexer.Disk.Fault
import StatementLexer.Lexeme.Basic

/-! # Faults of a session

Everything that can keep a session from listing its tokens, and the words for it.
-/

namespace StatementLexer

inductive SettingsFault where
  | missing (path : String)
  | notToml
  | unexpectedContent
  /-- Any other remark. -/
  | remark (text : String)
  deriving DecidableEq, Repr

def SettingsFault.message : SettingsFault → String
  | missing path => "Configuration file not found: " ++ path
  | notToml => "Failed to parse configuration: the text is no TOML document"
  | unexpectedContent => "Failed to parse configuration: a value is not of the expected kind"
  | remark text => text

inductive Fault where
  | settings (cause : SettingsFault)
  | noInput
  | unreadable (path : String) (cause : DiskFault)
  /-- A file has no tokens; `rendered` shows where and why. -/
  | lexing (path : String) (cause : LexError) (rendered : String)
  /-- Reading settings, saving them, or plain output failed. -/
  | disk (cause : DiskFault)
  /-- Output failed inside a document. -/
  | document (cause : DiskFault)
  deriving DecidableEq, Repr

namespace Fault

def message : Fault → String
  | settings cause => "Configuration error: " ++ cause.message
  | noInput => "No input files provided"
  | unreadable path cause => "Failed to read " ++ path ++ ": " ++ cause.message
  | lexing path cause _ => path ++ ": " ++ cause.message
  | disk cause => "IO error: " ++ cause.message
  | document cause => "JSON error: " ++ cause.message

def report (f : Fault) : String :=
  match f with
  | lexing _ _ rendered => rendered
  | _ => "error: " ++ f.message

end Fault

end StatementLexer
