import StatementLexer.Decimal.Shortest

/-! # Number layouts

How a number is written: which magnitudes take an exponent, whether a whole number keeps a fraction,
and the sign of the exponent. The digits are always those of the shortest decimal.
-/

namespace StatementLexer

structure Layout where
  /-- Decimal orders of magnitude written without an exponent, first and first beyond; all if
  `none`. -/
  positional : Option (Int × Int)
  /-- A whole number ends in `.0`. -/
  wholeFraction : Bool
  /-- A positive exponent has a `+`. -/
  exponentPlus : Bool
  /-- Where an exact half goes. -/
  tie : Tie
  deriving Repr

namespace Layout

/-- Never an exponent, and no fraction for a whole number. -/
def plain : Layout := ⟨none, false, false, .up⟩

/-- A fraction always; an exponent below `10 ^ -4` and from `10 ^ 16` on. -/
def labelled : Layout := ⟨some (-4, 16), true, false, .up⟩

/-- A fraction always; a signed exponent below `10 ^ -5` and from `10 ^ 16` on. -/
def document : Layout := ⟨some (-5, 16), true, true, .even⟩

def zeros (n : Nat) : List Char :=
  List.replicate n '0'

def positionalText (layout : Layout) (d : Decimal) : List Char :=
  let digits := Nat.toDigits 10 d.coefficient
  match d.exponent with
  | .ofNat e => digits ++ zeros e ++ (if layout.wholeFraction then ['.', '0'] else [])
  | .negSucc e =>
      let places := e + 1
      if places < digits.length then
        digits.take (digits.length - places) ++ '.' :: digits.drop (digits.length - places)
      else '0' :: '.' :: zeros (places - digits.length) ++ digits

/-- A decimal with one digit before the point and an exponent. -/
def exponentText (layout : Layout) (d : Decimal) : List Char :=
  let digits := Nat.toDigits 10 d.coefficient
  let order := d.exponent + digits.length - 1
  let lead := digits.take 1 ++ (if digits.length = 1 then [] else '.' :: digits.drop 1)
  let sign := if order < 0 then ['-'] else if layout.exponentPlus then ['+'] else []
  lead ++ 'e' :: sign ++ Nat.toDigits 10 order.natAbs

def decimalText (layout : Layout) (d : Decimal) : List Char :=
  let order := d.exponent + Decimal.digitCount d.coefficient - 1
  match layout.positional with
  | none => layout.positionalText d
  | some (first, beyond) =>
      if first ≤ order ∧ order < beyond then layout.positionalText d else layout.exponentText d

def magnitudeText (layout : Layout) (x : Binary64) : List Char :=
  if x.isZero then (if layout.wholeFraction then ['0', '.', '0'] else ['0'])
  else layout.decimalText (Decimal.shortest layout.tie (Binary64.ofBits x.magnitude))

/-- A number as text; what is not finite has a name. -/
def write (layout : Layout) (x : Binary64) : String :=
  if x.isNaN then "NaN"
  else
    let sign := if x.isNegative then ['-'] else []
    let body := if x.isFinite then layout.magnitudeText x else ['i', 'n', 'f']
    String.ofList (sign ++ body)

/-! The three layouts of `5`, of `1e-5` and of `1e16`. -/

example :
    [plain, labelled, document].map (·.write (.ofBits 0x4014000000000000)) = ["5", "5.0", "5.0"] := by
  decide +kernel

example :
    [plain, labelled, document].map (·.write (.ofBits 0x3EE4F8B588E368F1)) =
      ["0.00001", "1e-5", "0.00001"] := by
  decide +kernel

example :
    [plain, labelled, document].map (·.write (.ofBits 0x4341C37937E08000)) =
      ["10000000000000000", "1e16", "1e+16"] := by
  decide +kernel

end Layout

end StatementLexer
