/-! # Scanning

A scan takes a value off the front of a text, or fails and takes nothing. Repetition ends at the first
failure; the length of the text bounds it.
-/

namespace StatementLexer.Toml

/-- A value off the front of a text, with the rest. -/
abbrev Scan := StateT (List Char) Option

namespace Scan

variable {α β : Type}

def all? (p : Scan α) (text : List Char) : Option α :=
  match p text with
  | some (a, []) => some a
  | _ => none

def peek? : Scan (Option Char) :=
  fun text => some (text.head?, text)

def satisfy (p : Char → Bool) : Scan Char
  | [] => none
  | c :: rest => if p c then some (c, rest) else none

def char (c : Char) : Scan Char :=
  satisfy (· == c)

def takeWhile (p : Char → Bool) : Scan (List Char) :=
  fun text => some (text.span p)

def word (s : List Char) : Scan Unit :=
  fun text => if s.isPrefixOf text then some ((), text.drop s.length) else none

def upTo (p : Scan α) : Nat → Scan (List α)
  | 0 => pure []
  | n + 1 => fun text =>
      match p text with
      | none => some ([], text)
      | some (a, rest) =>
          match upTo p n rest with
          | some (more, rest) => some (a :: more, rest)
          | none => none

def many (p : Scan α) : Scan (List α) :=
  fun text => upTo p text.length text

def separated (p : Scan α) (separator : Scan β) : Scan (List α) := do
  let first ← p
  let more ← many (separator *> p)
  return first :: more

def done : Scan Unit
  | [] => some ((), [])
  | _ => none

end Scan

end StatementLexer.Toml
