import StatementLexer.Lexeme.Split
import StatementLexer.Token.Classify

/-! # Reading tokens one at a time

A reader holds the lexemes of a text and the index of the first that has not been asked for. A lexeme
is classified when it is asked for, and the index moves on even if it is no token.
-/

namespace StatementLexer

/-- A text, its lexemes, and the index of the next one. -/
structure Reader where
  source : String
  lexemes : List Lexeme
  current : Nat
  deriving DecidableEq, Repr

namespace Reader

/-- What a reader answers: a token or the reason why a lexeme is none. -/
abbrev Item := Except LexError Token

def ofSource (source : String) : Except LexError Reader :=
  (split source).map fun lexemes => ⟨source, lexemes, 0⟩

def unread (r : Reader) : List Lexeme :=
  r.lexemes.drop r.current

def remaining (r : Reader) : Nat :=
  r.lexemes.length - r.current

def nextToken (r : Reader) : Except LexError (Option Token) × Reader :=
  match r.lexemes[r.current]? with
  | none => (.ok none, r)
  | some l => (l.classify.map some, { r with current := r.current + 1 })

def next (r : Reader) : Option Item × Reader :=
  match r.nextToken with
  | (.ok none, s) => (none, s)
  | (.ok (some token), s) => (some (.ok token), s)
  | (.error e, s) => (some (.error e), s)

/-- Bounds on the number of items left, as far as they are promised: none below, the unread lexemes
above. -/
def sizeBounds (r : Reader) : Nat × Option Nat :=
  (0, some r.remaining)

/-- The next item behind `n` others, none if there are fewer. -/
def nth (r : Reader) : Nat → Option Item × Reader
  | 0 => r.next
  | n + 1 =>
      match r.next with
      | (none, s) => (none, s)
      | (some _, s) => s.nth n

/-- The tokens of lexemes up to the first that is none, and how many lexemes were read. -/
def collectFrom : List Lexeme → Except LexError (List Token) × Nat
  | [] => (.ok [], 0)
  | l :: rest =>
      match l.classify with
      | .error e => (.error e, 1)
      | .ok token =>
          let (result, count) := collectFrom rest
          (result.map (token :: ·), count + 1)

theorem collectFrom_cons_error {l : Lexeme} {e : LexError} (h : l.classify = .error e)
    (rest : List Lexeme) : collectFrom (l :: rest) = (.error e, 1) := by
  rw [collectFrom.eq_def]
  simp only [h]

theorem collectFrom_cons_ok {l : Lexeme} {t : Token} (h : l.classify = .ok t)
    (rest : List Lexeme) :
    collectFrom (l :: rest) = ((collectFrom rest).1.map (t :: ·), (collectFrom rest).2 + 1) := by
  rw [collectFrom.eq_def]
  simp only [h]

def skip (r : Reader) (n : Nat) : Reader :=
  { r with current := r.current + n }

def collect (r : Reader) : Except LexError (List Token) × Reader :=
  let (result, count) := collectFrom r.unread
  (result, r.skip count)

def count (r : Reader) : Nat × Reader :=
  (r.unread.length, r.skip r.unread.length)

def last (r : Reader) : Option Item × Reader :=
  (r.unread.getLast?.map Lexeme.classify, r.skip r.unread.length)

end Reader

def tokenize (source : String) : Except LexError (List Token) :=
  (Reader.ofSource source).bind fun r => r.collect.1

/-- The text of a file as it is split: one line break at its end does not count. -/
def SourceFile.statements (file : SourceFile) : String :=
  let cs := file.content.toList
  if cs.getLast? = some '\n' then String.ofList cs.dropLast else file.content

def SourceFile.tokens (file : SourceFile) : Except LexError (List Token) :=
  tokenize file.statements

end StatementLexer
