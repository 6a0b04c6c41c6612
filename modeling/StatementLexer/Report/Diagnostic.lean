import StatementLexer.Report.Code
import StatementLexer.Report.Snippet
import StatementLexer.Source.File

/-! # Diagnostics

A message to the user: its level, wording and place, with notes and advice, and its appearance with
the line of source text that it is about.
-/

namespace StatementLexer

inductive Level where
  | error
  | note
  | help
  deriving DecidableEq, Repr

def Level.label : Level → String
  | error => "error"
  | note => "note"
  | help => "help"

structure Diagnostic where
  level : Level
  message : String
  span : Span
  code : Option Code
  notes : List String
  helps : List String
  label : Option String
  deriving DecidableEq, Repr

namespace Diagnostic

def ofMessage (level : Level) (message : String) : Diagnostic :=
  ⟨level, message, Span.nowhere, none, [], [], none⟩

def error (message : String) : Diagnostic :=
  ofMessage .error message

def withCode (d : Diagnostic) (code : Code) : Diagnostic :=
  { d with code := some code }

def withSpan (d : Diagnostic) (span : Span) : Diagnostic :=
  { d with span := span }

def withNote (d : Diagnostic) (note : String) : Diagnostic :=
  { d with notes := d.notes ++ [note] }

def withHelp (d : Diagnostic) (help : String) : Diagnostic :=
  { d with helps := d.helps ++ [help] }

def withLabel (d : Diagnostic) (label : String) : Diagnostic :=
  { d with label := some label }

def header (d : Diagnostic) : String :=
  match d.code with
  | some code => d.level.label ++ "[" ++ code.text ++ "]: " ++ d.message
  | none => d.level.label ++ ": " ++ d.message

/-- The first line of a text; a `\r` before the line break belongs to the break. -/
def firstLine (cs : List Char) : List Char :=
  let line := cs.takeWhile (· != '\n')
  if line.length < cs.length && line.getLast? == some '\r' then line.dropLast else line

/-- Number of characters that the span covers on its first line, zero if it is none of the file. -/
def spanWidth (d : Diagnostic) (file : SourceFile) : Nat :=
  match file.range d.span.start d.span.stop with
  | .ok text => (firstLine text.toList).length
  | .error _ => 0

/-- The line that the message is about, underlined; none for a message about no line of the file. -/
def snippet? (d : Diagnostic) (file : SourceFile) : Option Snippet :=
  match file.line d.span.line with
  | .error _ => none
  | .ok line =>
      some ⟨line, d.span.line, d.span.column, d.span.column + max 1 (d.spanWidth file), d.label⟩

def remark (level : Level) (text : String) : String :=
  "\n  = " ++ level.label ++ ": " ++ text

def render (d : Diagnostic) (file : SourceFile) : String :=
  let place := if d.span.line = 0 then "" else "\n  --> " ++ file.name ++ ":" ++ d.span.text
  let excerpt := match d.snippet? file with
    | none => ""
    | some snippet => "\n" ++ snippet.format
  d.header ++ place ++ excerpt ++ String.join (d.notes.map (remark .note)) ++
    String.join (d.helps.map (remark .help))

end Diagnostic

end StatementLexer
