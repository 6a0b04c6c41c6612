import StatementLexer.Decimal.Rounding

/-! # Numerals

The numbers of the source language: decimal digits with at most one point among them. Points and
digits are counted first, and a text with the right numbers of them is then read.
-/

namespace StatementLexer.Numeral

/-- Numbers of points and digits, each a word of 32 bits. -/
structure Marks where
  points : Int32
  digits : Int32
  deriving DecidableEq, Repr

/-- Counts character by character, up to one that is neither a digit nor a point. The count behind
`2 ^ 31 - 1` is `-2 ^ 31`. -/
def Marks.count (m : Marks) : List Char → Option Marks
  | [] => some m
  | c :: cs =>
      if c.isDigit then count { m with digits := m.digits + 1 } cs
      else if c == '.' then count { m with points := m.points + 1 } cs
      else none

def isNumeral (cs : List Char) : Bool :=
  (Marks.count ⟨0, 0⟩ cs).any fun m => 0 < m.digits && m.points ≤ 1

/-- The digits read as one natural number, a point not counting. -/
def digitsValue (cs : List Char) : Nat :=
  cs.foldl (fun n c => if c.isDigit then 10 * n + (c.toNat - '0'.toNat) else n) 0

def places (cs : List Char) : Nat :=
  (cs.dropWhile (· != '.')).length - 1

def value (cs : List Char) : Binary64 :=
  Binary64.ofRatio (digitsValue cs) (Nat.pow 10 (places cs))

/-- Reads digits, and maybe a point with digits behind it. There has to be a digit before or behind
the point. -/
def read? (cs : List Char) : Option Binary64 :=
  let whole := cs.takeWhile Char.isDigit
  let behind := cs.dropWhile Char.isDigit
  let fraction := behind.tail
  if behind.head?.all (· == '.') && fraction.all Char.isDigit && !(whole ++ fraction).isEmpty then
    some (value cs)
  else none

end StatementLexer.Numeral
