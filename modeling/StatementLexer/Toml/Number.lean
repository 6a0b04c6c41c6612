import StatementLexer.Decimal.Shortest
import StatementLexer.Toml.Text
import StatementLexer.Toml.Value

/-! # Numbers and times of TOML -/

namespace StatementLexer.Toml

open Scan

/-- Digits of a class, single underscores allowed between them. -/
def digitRun (isDigit : Char → Bool) : Scan (List Char) := do
  let first ← satisfy isDigit
  let more ← many (satisfy isDigit <|> (char '_' *> satisfy isDigit))
  return first :: more

def sign : Scan Bool := do
  match ← optional (satisfy fun c => c == '+' || c == '-') with
  | some '-' => return true
  | _ => return false

/-- The digits of a decimal integer: no zero in front of others. -/
def wholeDigits : Scan (List Char) := do
  match ← peek? with
  | some '0' => return [← char '0']
  | _ => digitRun Char.isDigit

def digitsValue (base : Nat) (digits : List Char) : Nat :=
  digits.foldl (fun n c => base * n + (hexDigit? c).getD 0) 0

/-- An integer has to fit into sixty-four bits with a sign. -/
def bounded (n : Int) : Scan Value :=
  if -Int.pow 2 63 ≤ n ∧ n < Int.pow 2 63 then pure (.integer n) else failure

def basedInteger (mark : Char) (base : Nat) : Scan Value := do
  word ['0', mark]
  let digits ← digitRun fun c => (hexDigit? c).any (· < base)
  bounded (digitsValue base digits)

def decimalInteger : Scan Value := do
  let negative ← sign
  let n : Int := digitsValue 10 (← wholeDigits)
  bounded (if negative then -n else n)

def integer : Scan Value :=
  basedInteger 'x' 16 <|> basedInteger 'o' 8 <|> basedInteger 'b' 2 <|> decimalInteger

/-- A decimal at or beyond the end of the finite binary64 numbers. -/
def overflows (d : Decimal) : Bool :=
  let order := d.exponent + Decimal.digitCount d.coefficient
  if d.coefficient = 0 ∨ order < 300 then false
  else if 400 < order then true
  else !d.toBinary64.isFinite

def exponent : Scan Int := do
  let _ ← satisfy fun c => c == 'e' || c == 'E'
  let negative ← sign
  let n : Int := digitsValue 10 (← digitRun Char.isDigit)
  return if negative then -n else n

/-- A number with a fraction, an exponent or both. One that is too large is refused unless it is
negative. -/
def float : Scan Value := do
  let negative ← sign
  let whole ← wholeDigits
  let fraction ← optional (char '.' *> digitRun Char.isDigit)
  let power ← match fraction with
    | none => some <$> exponent
    | some _ => optional exponent
  let places := fraction.getD []
  let d : Decimal := ⟨digitsValue 10 (whole ++ places), power.getD 0 - places.length⟩
  if !negative && overflows d then failure else return .float

def namedFloat : Scan Value := do
  let _ ← sign
  word ['i', 'n', 'f'] <|> word ['n', 'a', 'n']
  return .float

/-! ## Dates and times -/

def fixedDigits (count : Nat) : Scan Nat := do
  let digits ← (List.replicate count ()).mapM fun _ => satisfy Char.isDigit
  return digitsValue 10 digits

def within (first last : Nat) (p : Scan Nat) : Scan Nat := do
  let n ← p
  if first ≤ n ∧ n ≤ last then return n else failure

def isLeapYear (year : Nat) : Bool :=
  year % 4 = 0 && (year % 100 ≠ 0 || year % 400 = 0)

def daysInMonth (year month : Nat) : Nat :=
  if month = 2 then (if isLeapYear year then 29 else 28)
  else if [4, 6, 9, 11].contains month then 30
  else 31

def date : Scan Unit := do
  let year ← fixedDigits 4
  let _ ← char '-'
  let month ← within 1 12 (fixedDigits 2)
  let _ ← char '-'
  let _ ← within 1 (daysInMonth year month) (fixedDigits 2)

/-- A time of day; a leap second is allowed. -/
def timeOfDay : Scan Unit := do
  let _ ← within 0 23 (fixedDigits 2)
  let _ ← char ':'
  let _ ← within 0 59 (fixedDigits 2)
  let _ ← char ':'
  let _ ← within 0 60 (fixedDigits 2)
  let _ ← optional (char '.' *> satisfy Char.isDigit *> takeWhile Char.isDigit)

def offset : Scan Unit :=
  let universal : Scan Unit := do
    let _ ← satisfy fun c => c == 'Z' || c == 'z'
  let hours : Scan Unit := do
    let _ ← satisfy fun c => c == '+' || c == '-'
    let _ ← within 0 23 (fixedDigits 2)
    let _ ← char ':'
    let _ ← within 0 59 (fixedDigits 2)
  universal <|> hours

/-- A date, a time of day, or both, then perhaps with an offset. -/
def time : Scan Value := do
  let clock : Scan Unit := do
    let _ ← satisfy fun c => c == 'T' || c == 't' || c == ' '
    timeOfDay
    let _ ← optional offset
  let dated : Scan Unit := do
    date
    let _ ← optional clock
  dated <|> timeOfDay
  return .time

def numberOrTime : Scan Value :=
  time <|> float <|> namedFloat <|> integer

end StatementLexer.Toml
