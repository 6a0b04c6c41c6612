/-! # Binary floating point of 64 bits

A number of the interchange format binary64, held as its bit pattern: one sign bit, eleven exponent
bits, fifty-two fraction bits. Only what reading and writing numbers needs is defined here.
-/

namespace StatementLexer

structure Binary64 where
  bits : UInt64
  deriving DecidableEq, Repr, Inhabited

namespace Binary64

/-- Bit pattern of positive infinity, and the first that is not finite. -/
def infinityBits : Nat := 0x7FF0000000000000

def magnitude (x : Binary64) : Nat :=
  x.bits.toNat % Nat.pow 2 63

def isNegative (x : Binary64) : Bool :=
  Nat.pow 2 63 ≤ x.bits.toNat

def isFinite (x : Binary64) : Bool :=
  x.magnitude < infinityBits

def isNaN (x : Binary64) : Bool :=
  infinityBits < x.magnitude

def isZero (x : Binary64) : Bool :=
  x.magnitude = 0

def ofBits (n : Nat) : Binary64 :=
  ⟨UInt64.ofNat n⟩

/-- A finite magnitude is `significand * 2 ^ scale / 2 ^ 1074`. -/
def significand (x : Binary64) : Nat :=
  if x.magnitude < Nat.pow 2 52 then x.magnitude
  else Nat.pow 2 52 + x.magnitude % Nat.pow 2 52

def scale (x : Binary64) : Nat :=
  x.magnitude / Nat.pow 2 52 - 1

/-- Numeric equality: the two zeros are equal, and what is not a number equals nothing. -/
def numEq (x y : Binary64) : Bool :=
  !x.isNaN && !y.isNaN && (x.bits == y.bits || (x.isZero && y.isZero))

end Binary64

end StatementLexer
