import StatementLexer.Lexeme.Basic
import StatementLexer.Text.Blank
import StatementLexer.Token.Basic

/-! # Splitting a text into lexemes

One pass over the characters, each seen with what follows it. Every line has to end with the
terminator directly before its line break, and a string has to be closed on its line; the first
place where that fails ends the pass. Runs of ordinary characters, symbols and quoted strings become
lexemes; separators between them are dropped.
-/

namespace StatementLexer

inductive Mode where
  /-- Nothing is being collected. -/
  | between
  /-- A run of ordinary characters, the last one first. -/
  | run (start : Mark) (taken : List Char)
  /-- A string with its opening quote, the last character first. -/
  | quote (start : Mark) (taken : List Char)
  deriving DecidableEq, Repr

/-- The state of the pass before a character: its position, and the lexemes found, the last one
first. -/
structure Splitting where
  here : Mark
  mode : Mode
  found : List Lexeme
  deriving DecidableEq, Repr

namespace Splitting

def initial : Splitting := ⟨Mark.origin, .between, []⟩

/-- A character ends its line if a line break or nothing follows it. -/
def endsLine (rest : List Char) : Bool :=
  match rest.head? with
  | none => true
  | some next => next == '\n'

def advance (s : Splitting) (c : Char) : Splitting :=
  { s with here := s.here.after c }

/-- Ends a run before the current position. -/
def flush (s : Splitting) : Splitting :=
  match s.mode with
  | .run start taken =>
      { s with
        mode := .between
        found := ⟨String.ofList taken.reverse, start.spanTo s.here.position⟩ :: s.found }
  | _ => s

def emit (s : Splitting) (c : Char) : Splitting :=
  { s with found := ⟨String.singleton c, s.here.spanOf c⟩ :: s.found }

/-- The fault of a line that does not end with the terminator: its last character, or the start of
the line if it is empty. -/
def missingTerminator (s : Splitting) (c : Char) : LexError :=
  if c = '\n' ∧ 0 < s.here.position then
    .missingTerminator ⟨s.here.position + 1, s.here.position + 1, s.here.line + 1, 1⟩
  else .missingTerminator (s.here.spanOf c)

/-- The fault of a string opened at `start` and still open at the current character. -/
def unterminated (s : Splitting) (start : Mark) (c : Char) : LexError :=
  .unterminatedQuote (start.spanTo (s.here.position + c.utf8Size))

def endStatement (s : Splitting) (c : Char) : Except LexError Splitting :=
  match s.mode with
  | .quote start _ => .error (s.unterminated start c)
  | _ => .ok ((s.flush.emit c).advance c)

def stepPlain (s : Splitting) (c : Char) : Splitting :=
  if c = '"' then { s.flush with mode := .quote s.here [c] }.advance c
  else if Text.isSeparator c then s.flush.advance c
  else if isSymbol c then (s.flush.emit c).advance c
  else
    match s.mode with
    | .run start taken => { s with mode := .run start (c :: taken) }.advance c
    | _ => { s with mode := .run s.here [c] }.advance c

def stepQuote (s : Splitting) (start : Mark) (taken : List Char) (c : Char) :
    Except LexError Splitting :=
  if c = '"' then
    let lexeme : Lexeme :=
      ⟨String.ofList (c :: taken).reverse, start.spanTo (s.here.position + c.utf8Size)⟩
    .ok ({ s with mode := .between, found := lexeme :: s.found }.advance c)
  else if c = '\n' then .error (s.unterminated start c)
  else .ok ({ s with mode := .quote start (c :: taken) }.advance c)

/-- One character, `rest` being what follows it. A line break at the very beginning ends an empty
first line. -/
def step (s : Splitting) (c : Char) (rest : List Char) : Except LexError Splitting :=
  if c = '\n' ∧ s.here.position = 0 then .error (s.missingTerminator c)
  else if endsLine rest then
    if c = terminator then s.endStatement c else .error (s.missingTerminator c)
  else
    match s.mode with
    | .quote start taken => s.stepQuote start taken c
    | _ => .ok (s.stepPlain c)

def scan : Splitting → List Char → Except LexError Splitting
  | s, [] => .ok s
  | s, c :: rest => (s.step c rest).bind fun s => scan s rest

def finish (s : Splitting) : Except LexError (List Lexeme) :=
  match s.mode with
  | .quote start _ => .error (.unterminatedQuote (start.spanTo s.here.position))
  | _ => .ok s.flush.found.reverse

end Splitting

def splitChars (cs : List Char) : Except LexError (List Lexeme) :=
  (Splitting.initial.scan cs).bind Splitting.finish

def split (source : String) : Except LexError (List Lexeme) :=
  splitChars source.toList

end StatementLexer
