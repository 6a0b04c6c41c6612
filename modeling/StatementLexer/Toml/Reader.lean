import StatementLexer.Toml.Document
import StatementLexer.Toml.Number

/-! # Reading TOML

The members of a text in the format TOML 1.0. Values and keys nest less than eighty deep.
-/

namespace StatementLexer.Toml

open Scan

/-- The depth from which on keys and values are refused. -/
def depthLimit : Nat := 80

def isKeyChar (c : Char) : Bool :=
  c.isAlphanum || c == '-' || c == '_'

def simpleKey : Scan String :=
  let bare : Scan String := do
    let first ← satisfy isKeyChar
    let more ← takeWhile isKeyChar
    return String.ofList (first :: more)
  bare <|> lineString

/-- A key, its last part by itself. -/
def key : Scan (List String × String) := do
  let part : Scan String := blanks *> simpleKey <* blanks
  let parts ← separated part (char '.')
  match parts.getLast? with
  | some last => if parts.length < depthLimit then return (parts.dropLast, last) else failure
  | none => failure

def pair (value : Scan Value) : Scan (List String × String × Value) := do
  let (path, last) ← key
  let _ ← char '='
  blanks
  let v ← value
  return (path, last, v)

def array (value : Scan Value) : Scan Value := do
  let _ ← char '['
  let items ← optional (separated (gap *> value <* gap) (char ','))
  if items.isSome then
    let _ ← optional (char ',')
  gap
  let _ ← char ']'
  return .array (items.getD [])

def inline (value : Scan Value) : Scan Value := do
  let _ ← char '\x7b'
  let pairs ← optional (separated (pair value <* blanks) (char ','))
  blanks
  let _ ← char '\x7d'
  match inlineTable (pairs.getD []) with
  | some table => return table
  | none => failure

def boolean : Scan Value :=
  (word ['t', 'r', 'u', 'e'] *> pure (.boolean true)) <|>
    (word ['f', 'a', 'l', 's', 'e'] *> pure (.boolean false))

/-- A value with at most `depth` arrays and inline tables around its innermost part. -/
def valueWithin : Nat → Scan Value
  | 0 => flat
  | depth + 1 => flat <|> array (valueWithin depth) <|> inline (valueWithin depth)
where
  flat : Scan Value := (.text <$> string) <|> boolean <|> numberOrTime

def value : Scan Value :=
  valueWithin (depthLimit - 1)

def statement : Scan Statement :=
  let element : Scan Statement := do
    word ['[', '[']
    let (path, last) ← key
    word [']', ']']
    return .element path last
  let header : Scan Statement := do
    let _ ← char '['
    let (path, last) ← key
    let _ ← char ']'
    return .header path last
  let member : Scan Statement := do
    let (path, last, v) ← pair value
    return .pair path last v
  element <|> header <|> member

def line : Scan (Option Statement) := do
  blanks
  match ← peek? with
  | none => failure
  | some c =>
      if c == '#' || c == '\r' || c == '\n' then
        lineEnd
        return none
      else
        let s ← statement
        lineEnd
        return some s

/-- All lines of a text; a byte order mark at the beginning does not count. -/
def lines : Scan (List Statement) := do
  let _ ← optional (char '\uFEFF')
  let found ← many line
  blanks
  return found.filterMap id

def read? (text : String) : Option (List (String × Value)) :=
  (lines.all? text.toList).bind assemble

end StatementLexer.Toml
