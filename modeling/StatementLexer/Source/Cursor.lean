import StatementLexer.Source.Span
import StatementLexer.Text.Bytes

/-! # Cursors

A cursor reads a text character by character and knows its position.
-/

namespace StatementLexer

/-- A text, the part of it that is still unread, and the position where that part starts. -/
structure Cursor where
  source : List Char
  rest : List Char
  mark : Mark
  deriving DecidableEq, Repr

namespace Cursor

def ofString (source : String) : Cursor :=
  ⟨source.toList, source.toList, Mark.origin⟩

def current? (c : Cursor) : Option Char :=
  c.rest.head?

/-- The character to be read next, the null character at the end. -/
def current (c : Cursor) : Char :=
  c.current?.getD '\x00'

def following? (c : Cursor) : Option Char :=
  c.rest.tail.head?

def atEnd (c : Cursor) : Bool :=
  c.rest.isEmpty

/-- Reads one character; at the end nothing happens. -/
def advance (c : Cursor) : Cursor :=
  match c.rest with
  | [] => c
  | x :: xs => { c with rest := xs, mark := c.mark.after x }

def advanceBy (c : Cursor) : Nat → Cursor
  | 0 => c
  | n + 1 => c.advance.advanceBy n

/-- The span of the current character, empty at the end. -/
def span (c : Cursor) : Span :=
  match c.current? with
  | none => c.mark.spanTo c.mark.position
  | some x => c.mark.spanOf x

def remaining (c : Cursor) : String :=
  String.ofList c.rest

/-- The text between two byte offsets of the source, if both stand between characters. -/
def slice? (c : Cursor) (start stop : Nat) : Option String :=
  (Text.slice? start stop c.source).map String.ofList

end Cursor

end StatementLexer
