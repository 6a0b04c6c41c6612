import StatementLexer.Toml.Scan

/-! # Blanks, comments and strings of TOML -/

namespace StatementLexer.Toml

open Scan

def isBlank (c : Char) : Bool :=
  c == ' ' || c == '\t'

/-- Characters that need no escape anywhere: a tab, and all that are no control characters. -/
def isPlain (c : Char) : Bool :=
  c == '\t' || (0x20 ≤ c.toNat && c.toNat ≠ 0x7F)

def blanks : Scan Unit := do
  let _ ← takeWhile isBlank

def lineBreak : Scan Unit :=
  word ['\n'] <|> word ['\r', '\n']

def comment : Scan Unit := do
  let _ ← char '#'
  let _ ← takeWhile isPlain

/-- What may stand behind the content of a line. -/
def lineEnd : Scan Unit := do
  blanks
  let _ ← optional comment
  lineBreak <|> done

/-- Blanks, comments and line breaks, as they may stand between the items of an array. -/
def gap : Scan Unit := do
  let _ ← many ((do let _ ← satisfy isBlank) <|> lineBreak <|> comment)

/-! ## Escapes -/

def hexDigit? (c : Char) : Option Nat :=
  if '0' ≤ c ∧ c ≤ '9' then some (c.toNat - '0'.toNat)
  else if 'a' ≤ c ∧ c ≤ 'f' then some (c.toNat - 'a'.toNat + 10)
  else if 'A' ≤ c ∧ c ≤ 'F' then some (c.toNat - 'A'.toNat + 10)
  else none

def hexDigit : Scan Nat
  | [] => none
  | c :: rest => (hexDigit? c).map (·, rest)

def codePoint (count : Nat) : Scan Char := do
  let digits ← (List.replicate count ()).mapM fun _ => hexDigit
  let n := digits.foldl (fun n d => 16 * n + d) 0
  if n.isValidChar then return Char.ofNat n else failure

def escaped : Scan Char := do
  let _ ← char '\\'
  match ← satisfy fun _ => true with
  | 'b' => return '\x08'
  | 't' => return '\t'
  | 'n' => return '\n'
  | 'f' => return '\x0C'
  | 'r' => return '\r'
  | '"' => return '"'
  | '\\' => return '\\'
  | 'u' => codePoint 4
  | 'U' => codePoint 8
  | _ => failure

/-! ## Strings -/

def basicChar : Scan Char :=
  escaped <|> satisfy fun c => isPlain c && c != '"' && c != '\\'

def literalChar : Scan Char :=
  satisfy fun c => isPlain c && c != '\x27'

def lineString : Scan String :=
  let basic : Scan String := do
    let _ ← char '"'
    let body ← many basicChar
    let _ ← char '"'
    return String.ofList body
  let literal : Scan String := do
    let _ ← char '\x27'
    let body ← many literalChar
    let _ ← char '\x27'
    return String.ofList body
  basic <|> literal

/-- One or two quotes inside a string that three quotes delimit. -/
def innerQuotes (quote : Char) : Scan (List Char) := do
  let quotes ← takeWhile (· == quote)
  if 0 < quotes.length ∧ quotes.length < 3 then return quotes else failure

/-- The three closing quotes; up to two before them belong to the string. -/
def closingQuotes (quote : Char) : Scan (List Char) :=
  fun text =>
    let count := min 5 (text.takeWhile (· == quote)).length
    if 3 ≤ count then some (List.replicate (count - 3) quote, text.drop count) else none

/-- A backslash at the end of a line, with all blanks and line breaks that follow. -/
def joinedLines : Scan (List Char) := do
  let _ ← char '\\'
  blanks
  lineBreak
  let _ ← many ((do let _ ← satisfy isBlank) <|> lineBreak)
  return []

/-- A string on several lines; a line break directly behind the opening quotes does not count. -/
def longString (quote : Char) (content : Scan (List Char)) : Scan String := do
  word [quote, quote, quote]
  let _ ← optional lineBreak
  let newline : Scan (List Char) := do
    lineBreak
    return ['\n']
  let body ← many (content <|> newline <|> innerQuotes quote)
  let tail ← closingQuotes quote
  return String.ofList (body.flatten ++ tail)

def string : Scan String :=
  let single (p : Scan Char) : Scan (List Char) := (fun c => [c]) <$> p
  longString '"' (joinedLines <|> single basicChar) <|>
    longString '\x27' (single literalChar) <|> lineString

end StatementLexer.Toml
