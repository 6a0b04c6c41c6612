import StatementLexer.Decimal.Numeral
import StatementLexer.Proofs.Decimal.Rounding

/-! # Ratios in the range of finite numbers

A ratio is rounded to a finite number exactly if it lies below the middle between the last finite
number and the power of two behind it; the middle itself goes up, since the last finite number is
odd in its last bit. From the middle on everything is rounded to infinity. Main statement:
`isFinite_value_iff`.
-/

namespace StatementLexer

namespace Binary64

/-- The first value that is not rounded to a finite number: `2 ^ 1024 - 2 ^ 970`. -/
def rangeEnd : Nat := (2 ^ 54 - 1) * 2 ^ 970

theorem rangeEnd_pos : 0 < rangeEnd :=
  Nat.mul_pos (by decide) (Nat.two_pow_pos 970)

def infinity : Binary64 := ofBits infinityBits

/-! ## Quotients -/

/-- Rounding goes down up to a half and up from a half on, and at a half to the even side. -/
theorem roundQuotient_cases (num den : Nat) :
    (roundQuotient num den = num / den ∧ 2 * (num % den) ≤ den ∧
        (2 * (num % den) = den → num / den % 2 = 0)) ∨
      (roundQuotient num den = num / den + 1 ∧ den ≤ 2 * (num % den) ∧
        (2 * (num % den) = den → num / den % 2 = 1)) := by
  unfold roundQuotient
  simp only
  split
  · omega
  · split <;> omega

/-- Rounding stays below an even number up to the half before it, and a half goes to the even
number. -/
theorem roundQuotient_lt_iff (num n : Nat) {den : Nat} (hden : 0 < den) (heven : n % 2 = 0) :
    roundQuotient num den < n ↔ 2 * num + den < 2 * (den * n) := by
  have hsplit := Nat.div_add_mod num den
  have hmod := Nat.mod_lt num hden
  have hround := roundQuotient_cases num den
  generalize num / den = q at hsplit hround
  rcases Nat.lt_trichotomy (q + 1) n with hbelow | rfl | habove
  · have hle : den * (q + 2) ≤ den * n := Nat.mul_le_mul_left den hbelow
    rw [Nat.mul_add] at hle
    omega
  · rw [Nat.mul_add]
    omega
  · have hle : den * n ≤ den * q := Nat.mul_le_mul_left den (by omega)
    omega

/-! ## Ratios -/

theorem mul_two_pow_add (n a b : Nat) : n * 2 ^ (a + b) = 2 ^ b * (n * 2 ^ a) := by
  rw [Nat.pow_add, ← Nat.mul_assoc, Nat.mul_comm]

section

variable {num den : Nat}

/-- In units of the smallest number, the quotient of a ratio in an octave fills the significand, and
not more. -/
theorem IsOctave.quotient_bounds {e : Nat} (h : IsOctave num den e) :
    num * 2 ^ 1074 < 2 ^ 53 * (den * 2 ^ e) ∧
      (e ≠ 0 → 2 ^ 52 * (den * 2 ^ e) ≤ num * 2 ^ 1074) := by
  have hsum : 1074 = 1022 + 52 := by omega
  obtain ⟨hhigh, hlow⟩ := h
  rw [mul_two_pow_add den e 1] at hhigh
  rw [hsum, mul_two_pow_add num 1022 52]
  generalize num * 2 ^ 1022 = units at hhigh hlow ⊢
  constructor
  · omega
  · intro he
    exact Nat.mul_le_mul_left _ (hlow he)

/-- The end of the range, measured in the last octave of finite numbers. -/
theorem lt_rangeEnd_iff :
    num < den * rangeEnd ↔
      2 * (num * 2 ^ 1074) + den * 2 ^ 2045 < 2 ^ 54 * (den * 2 ^ 2045) := by
  have hend : den * rangeEnd + den * 2 ^ 970 = 2 ^ 54 * (den * 2 ^ 970) := by
    unfold rangeEnd
    rw [Nat.mul_left_comm]
    omega
  have hsum : 2045 = 970 + (1074 + 1) := by omega
  have hnum : 2 * (num * 2 ^ 1074) = 2 ^ (1074 + 1) * num := by
    rw [Nat.mul_comm _ num, mul_two_pow_add num 1074 1, Nat.pow_one]
  rw [hnum, hsum, mul_two_pow_add den 970, Nat.mul_left_comm (2 ^ 54), ← Nat.mul_add,
    Nat.mul_lt_mul_left (Nat.two_pow_pos (1074 + 1)), ← hend]
  exact Nat.add_lt_add_iff_right.symm

/-- Below the last octave a carry of the rounding meets no end, and behind it everything is infinite.
Within it the rounding must not carry. -/
theorem octave_quotient_lt_iff {units e : Nat} (hden : 0 < den)
    (hhigh : units < 2 ^ 53 * (den * 2 ^ e)) (hlow : e ≠ 0 → 2 ^ 52 * (den * 2 ^ e) ≤ units) :
    e * 2 ^ 52 + roundQuotient units (den * 2 ^ e) < infinityBits ↔
      2 * units + den * 2 ^ 2045 < 2 ^ 54 * (den * 2 ^ 2045) := by
  have hinfinity : infinityBits = 2047 * 2 ^ 52 := by decide
  have hpos : ∀ e, 0 < den * 2 ^ e := fun e => Nat.mul_pos hden (Nat.two_pow_pos e)
  have hnext : ∀ {e e'}, e < e' → 2 * (den * 2 ^ e) ≤ den * 2 ^ e' := by
    intro e e' hlt
    rw [← Nat.pow_one 2, ← mul_two_pow_add]
    exact Nat.mul_le_mul_left den (Nat.pow_le_pow_right (by decide) hlt)
  rw [hinfinity]
  rcases Nat.lt_trichotomy e 2045 with hbelow | rfl | habove
  · have hround := roundQuotient_lt_iff units (3 * 2 ^ 52) (hpos e) (by decide)
    have hstep := hnext hbelow
    omega
  · have hround := roundQuotient_lt_iff units (2 ^ 53) (hpos 2045) (by decide)
    omega
  · have hround := roundQuotient_lt_iff units (2 ^ 52) (hpos e) (by decide)
    have hstep := hnext habove
    have hfull := hlow (by omega)
    omega

theorem pattern_lt_infinityBits_iff (hnum : num ≠ 0) (hden : den ≠ 0) :
    pattern num den < infinityBits ↔ num < den * rangeEnd := by
  obtain ⟨hhigh, hlow⟩ := (isOctave_octave hnum hden).quotient_bounds
  rw [lt_rangeEnd_iff]
  unfold pattern
  simp only [Nat.pow_eq]
  rw [octave_quotient_lt_iff (Nat.pos_of_ne_zero hden) hhigh hlow]

theorem isFinite_ofRatio_iff (hden : den ≠ 0) :
    (ofRatio num den).isFinite = true ↔ num < den * rangeEnd := by
  by_cases hnum : num = 0
  · have hpos : 0 < den * rangeEnd := Nat.mul_pos (Nat.pos_of_ne_zero hden) rangeEnd_pos
    rw [ofRatio, if_pos hnum, hnum]
    exact ⟨fun _ => hpos, fun _ => by decide⟩
  · obtain ⟨-, hmagnitude⟩ := ofBits_of_le_infinity (Nat.min_le_right (pattern num den) infinityBits)
    rw [ofRatio, if_neg hnum, isFinite, hmagnitude, decide_eq_true_eq,
      ← pattern_lt_infinityBits_iff hnum hden]
    omega

theorem ofRatio_eq_infinity (hden : den ≠ 0) (h : ¬ num < den * rangeEnd) :
    ofRatio num den = infinity := by
  have hnum : num ≠ 0 := by
    rintro rfl
    exact h (Nat.mul_pos (Nat.pos_of_ne_zero hden) rangeEnd_pos)
  rw [← pattern_lt_infinityBits_iff hnum hden, Nat.not_lt] at h
  rw [ofRatio, if_neg hnum, Nat.min_eq_right h, infinity]

end

end Binary64

/-! ## Numerals -/

namespace Numeral

/-- The value of a numeral is below the end of the range of finite numbers. -/
def InRange (cs : List Char) : Prop :=
  digitsValue cs < 10 ^ places cs * Binary64.rangeEnd

instance (cs : List Char) : Decidable (InRange cs) :=
  inferInstanceAs (Decidable (_ < _))

theorem isFinite_value_iff (cs : List Char) : (value cs).isFinite = true ↔ InRange cs :=
  Binary64.isFinite_ofRatio_iff (Nat.ne_of_gt (Nat.pow_pos (by decide)))

theorem value_of_not_inRange {cs : List Char} (h : ¬ InRange cs) : value cs = Binary64.infinity :=
  Binary64.ofRatio_eq_infinity (Nat.ne_of_gt (Nat.pow_pos (by decide))) h

end Numeral

end StatementLexer
