/-! # Diagnostic codes

A code names a kind of message, so that its wording can change: a family and a number of at least
four digits.
-/

namespace StatementLexer

structure Code where
  family : String
  number : UInt32
  deriving DecidableEq, Repr

namespace Code

/-- A number in decimal, filled up with zeros on the left to four digits. -/
def padded (n : Nat) : String :=
  let digits := Nat.toDigits 10 n
  String.ofList (List.replicate (4 - digits.length) '0' ++ digits)

/-- Family and number, as in `E1001`. -/
def text (c : Code) : String :=
  c.family ++ padded c.number.toNat

def detail (c : Code) : String :=
  "DiagnosticCode(" ++ c.text ++ ")"

def missingTerminator : Code := ⟨"E", 1001⟩

def unterminatedString : Code := ⟨"E", 1002⟩

def invalidToken : Code := ⟨"E", 1003⟩

end Code

end StatementLexer
