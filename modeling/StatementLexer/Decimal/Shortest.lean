import StatementLexer.Decimal.Rounding

/-! # Shortest decimals

The decimal with the fewest digits that reads back as a given finite number, and of several such the
nearest. Every finite number has an exact decimal value, so a decimal of `n` digits is a cut through
the digits of that value.
-/

namespace StatementLexer

/-- The value `coefficient * 10 ^ exponent`. -/
structure Decimal where
  coefficient : Nat
  exponent : Int
  deriving DecidableEq, Repr

/-- Which neighbour a value exactly between two decimals takes. -/
inductive Tie where
  | up
  | even
  deriving DecidableEq, Repr

namespace Decimal

def toBinary64 (d : Decimal) : Binary64 :=
  match d.exponent with
  | .ofNat e => Binary64.ofRatio (d.coefficient * Nat.pow 10 e) 1
  | .negSucc e => Binary64.ofRatio d.coefficient (Nat.pow 10 (e + 1))

def digitCount (n : Nat) : Nat :=
  (Nat.toDigits 10 n).length

/-- Number of decimal places of the exact value of a finite number. -/
def exactPlaces (x : Binary64) : Nat :=
  1074 - x.scale

/-- The magnitude of a finite number in units of its last exact decimal place. -/
def units (x : Binary64) : Nat :=
  x.significand * Nat.pow 2 (x.scale - 1074) * Nat.pow 5 (exactPlaces x)

/-- Dropping the last `dropped` digits of the exact value `n` leaves a decimal below and one above
it; the nearer of those that read back as `x` is taken. -/
def cut? (tie : Tie) (x : Binary64) (n dropped : Nat) : Option Decimal :=
  let grid := Nat.pow 10 dropped
  let exponent := Int.ofNat dropped - Int.ofNat (exactPlaces x)
  let below : Decimal := ⟨n / grid, exponent⟩
  let above : Decimal := ⟨n / grid + 1, exponent⟩
  let rest := 2 * (n % grid)
  let aboveFirst := grid < rest || (rest == grid && (tie == .up || n / grid % 2 == 1))
  let choices := if aboveFirst then [above, below] else [below, above]
  choices.find? fun d => d.toBinary64.bits == x.bits

def trimZeros (d : Decimal) : Decimal :=
  let digits := Nat.toDigits 10 d.coefficient
  let zeros := (digits.reverse.takeWhile (· == '0')).length
  ⟨d.coefficient / Nat.pow 10 zeros, d.exponent + zeros⟩

/-- The shortest decimal that reads back as the positive finite number `x`. Seventeen digits are
always enough; the exact value closes the search. -/
def shortest (tie : Tie) (x : Binary64) : Decimal :=
  let n := units x
  let count := digitCount n
  match (List.range' 1 17).findSome? fun kept => cut? tie x n (count - kept) with
  | some d => trimZeros d
  | none => trimZeros ⟨n, -Int.ofNat (exactPlaces x)⟩

end Decimal

end StatementLexer
