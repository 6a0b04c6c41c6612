import StatementLexer.Decimal.Binary64

/-! # Rounding a ratio

The binary64 number nearest to a ratio of natural numbers; of two equally near ones, the one with
an even last bit. All arithmetic is exact.
-/

namespace StatementLexer.Binary64

/-- The quotient rounded to the nearest integer, a half going to the even neighbour. -/
def roundQuotient (num den : Nat) : Nat :=
  let q := num / den
  let r := 2 * (num % den)
  if r < den then q else if den < r then q + 1 else q + q % 2

/-- The octave of a positive ratio: the exponent of the greatest power of two not above it, counted
from that of the smallest normal number, and zero for anything smaller. -/
def octave (num den : Nat) : Nat :=
  let guess := num.log2 + 1022 - den.log2
  if num * Nat.pow 2 1022 < den * Nat.pow 2 guess then guess - 1 else guess

/-- Bit pattern of the nearest number to a positive ratio, were there no last finite number: a
rounding that fills the fraction carries into the exponent. -/
def pattern (num den : Nat) : Nat :=
  let e := octave num den
  e * Nat.pow 2 52 + roundQuotient (num * Nat.pow 2 1074) (den * Nat.pow 2 e)

/-- The number nearest to `num / den`. A result past the last finite number is infinity. -/
def ofRatio (num den : Nat) : Binary64 :=
  if num = 0 then ofBits 0 else ofBits (min (pattern num den) infinityBits)

end StatementLexer.Binary64
