/-! # Snippets

A line of source text with carets under the columns that a message is about.
-/

namespace StatementLexer

/-- A line, its number, the columns to underline, and a word on them. -/
structure Snippet where
  line : String
  lineNumber : Nat
  startColumn : Nat
  stopColumn : Nat
  label : Option String
  deriving DecidableEq, Repr

namespace Snippet

def spaces (n : Nat) : String :=
  String.ofList (List.replicate n ' ')

/-- Width of the gutter: that of the line number, and at least three. -/
def gutterWidth (s : Snippet) : Nat :=
  max 3 (toString s.lineNumber).length

def lineRow (s : Snippet) : String :=
  let number := toString s.lineNumber
  spaces (s.gutterWidth - number.length) ++ number ++ " | " ++ s.line

/-- Number of carets; an empty range has one too. -/
def caretCount (s : Snippet) : Nat :=
  max 1 (s.stopColumn - s.startColumn)

def caretRow (s : Snippet) : String :=
  spaces s.gutterWidth ++ " | " ++ spaces (s.startColumn - 1) ++
    String.ofList (List.replicate s.caretCount '^') ++
    match s.label with
    | none => ""
    | some label => " " ++ label

def format (s : Snippet) : String :=
  s.lineRow ++ "\n" ++ s.caretRow

end Snippet

end StatementLexer
