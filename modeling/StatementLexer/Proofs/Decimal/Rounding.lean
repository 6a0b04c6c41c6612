import Mathlib.Algebra.Group.Nat.Defs
import StatementLexer.Decimal.Rounding

/-! # Rounding a ratio

The number nearest to a ratio is found from an estimate of its octave. The octave is told by two
inequalities alone, so it depends on the value of the ratio and not on its terms, and neither does
the rounded number. A ratio that a finite number has as its exact value is rounded to that number.
-/

namespace StatementLexer.Binary64

/-! ## Quotients -/

theorem roundQuotient_mul_left {k : Nat} (hk : 0 < k) (num den : Nat) :
    roundQuotient (k * num) (k * den) = roundQuotient num den := by
  have hdiv : k * num / (k * den) = num / den := Nat.mul_div_mul_left num den hk
  have hmod : 2 * (k * num % (k * den)) = k * (2 * (num % den)) := by
    rw [Nat.mul_mod_mul_left, Nat.mul_left_comm]
  unfold roundQuotient
  simp only [hdiv, hmod, Nat.mul_lt_mul_left hk]

theorem roundQuotient_mul_right (q : Nat) {den : Nat} (hden : 0 < den) :
    roundQuotient (q * den) den = q := by
  unfold roundQuotient
  simp [Nat.mul_div_cancel q hden, hden]

/-! ## Octaves -/

/-- The octave of a ratio: the power of two before which it lies, and from which on unless it is too
small. -/
def IsOctave (num den e : Nat) : Prop :=
  num * 2 ^ 1022 < den * 2 ^ (e + 1) ∧ (e ≠ 0 → den * 2 ^ e ≤ num * 2 ^ 1022)

theorem IsOctave.le {num den e e' : Nat} (h : IsOctave num den e) (h' : IsOctave num den e') :
    e ≤ e' := by
  by_cases hle : e ≤ e'
  · exact hle
  · have hlow : den * 2 ^ e ≤ num * 2 ^ 1022 := h.2 (by omega)
    have hpow : 2 ^ (e' + 1) ≤ 2 ^ e := Nat.pow_le_pow_right (by decide) (by omega)
    have hhigh := Nat.lt_of_lt_of_le h'.1 (Nat.mul_le_mul_left den hpow)
    exact absurd hhigh (Nat.not_lt.mpr hlow)

theorem IsOctave.unique {num den e e' : Nat} (h : IsOctave num den e) (h' : IsOctave num den e') :
    e = e' :=
  Nat.le_antisymm (h.le h') (h'.le h)

theorem IsOctave.mul_left {num den e k : Nat} (hk : 0 < k) (h : IsOctave num den e) :
    IsOctave (k * num) (k * den) e := by
  constructor
  · rw [Nat.mul_assoc, Nat.mul_assoc]
    exact Nat.mul_lt_mul_of_pos_left h.1 hk
  · intro he
    rw [Nat.mul_assoc, Nat.mul_assoc]
    exact Nat.mul_le_mul_left k (h.2 he)

/-- The estimate from the binary lengths is right or one too high, and the comparison tells which. -/
theorem isOctave_octave {num den : Nat} (hnum : num ≠ 0) (hden : den ≠ 0) :
    IsOctave num den (octave num den) := by
  have hnumLow : 2 ^ num.log2 * 2 ^ 1022 ≤ num * 2 ^ 1022 :=
    Nat.mul_le_mul_right _ (Nat.log2_self_le hnum)
  have hnumHigh : num * 2 ^ 1022 < 2 ^ (num.log2 + 1) * 2 ^ 1022 :=
    Nat.mul_lt_mul_of_pos_right Nat.lt_log2_self (Nat.two_pow_pos 1022)
  have hdenLow : 2 ^ den.log2 ≤ den := Nat.log2_self_le hden
  have hdenHigh : den < 2 ^ (den.log2 + 1) := Nat.lt_log2_self
  rw [← Nat.pow_add 2 num.log2 1022] at hnumLow
  rw [← Nat.pow_add 2 (num.log2 + 1) 1022] at hnumHigh
  unfold octave
  simp only [Nat.pow_eq]
  generalize hguess : num.log2 + 1022 - den.log2 = guess
  split
  next hbelow =>
    constructor
    · have hpow : 2 ^ guess ≤ 2 ^ (guess - 1 + 1) := Nat.pow_le_pow_right (by decide) (by omega)
      exact Nat.lt_of_lt_of_le hbelow (Nat.mul_le_mul_left den hpow)
    · intro hpos
      have hexp : den.log2 + 1 + (guess - 1) ≤ num.log2 + 1022 := by omega
      calc den * 2 ^ (guess - 1)
          ≤ 2 ^ (den.log2 + 1) * 2 ^ (guess - 1) :=
            Nat.mul_le_mul_right _ (Nat.le_of_lt hdenHigh)
        _ = 2 ^ (den.log2 + 1 + (guess - 1)) := (Nat.pow_add 2 _ _).symm
        _ ≤ 2 ^ (num.log2 + 1022) := Nat.pow_le_pow_right (by decide) hexp
        _ ≤ num * 2 ^ 1022 := hnumLow
  next hnotBelow =>
    constructor
    · have hexp : num.log2 + 1 + 1022 ≤ den.log2 + (guess + 1) := by omega
      calc num * 2 ^ 1022
          < 2 ^ (num.log2 + 1 + 1022) := hnumHigh
        _ ≤ 2 ^ (den.log2 + (guess + 1)) := Nat.pow_le_pow_right (by decide) hexp
        _ = 2 ^ den.log2 * 2 ^ (guess + 1) := Nat.pow_add 2 _ _
        _ ≤ den * 2 ^ (guess + 1) := Nat.mul_le_mul_right _ hdenLow
    · intro _
      exact Nat.not_lt.mp hnotBelow

theorem octave_eq {num den e : Nat} (hnum : num ≠ 0) (hden : den ≠ 0) (h : IsOctave num den e) :
    octave num den = e :=
  (isOctave_octave hnum hden).unique h

/-! ## Ratios -/

theorem pattern_mul_left {k num den : Nat} (hk : 0 < k) (hnum : num ≠ 0) (hden : den ≠ 0) :
    pattern (k * num) (k * den) = pattern num den := by
  have hoctave : octave (k * num) (k * den) = octave num den :=
    octave_eq (Nat.mul_ne_zero (by omega) hnum) (Nat.mul_ne_zero (by omega) hden)
      ((isOctave_octave hnum hden).mul_left hk)
  unfold pattern
  simp only [hoctave, Nat.mul_assoc, roundQuotient_mul_left hk]

/-- Terms of a ratio with a common factor give the number of the ratio without it. -/
theorem ofRatio_mul_left {k den : Nat} (hk : 0 < k) (hden : den ≠ 0) (num : Nat) :
    ofRatio (k * num) (k * den) = ofRatio num den := by
  by_cases hnum : num = 0
  · simp [ofRatio, hnum]
  · have hscaled : k * num ≠ 0 := Nat.mul_ne_zero (by omega) hnum
    unfold ofRatio
    rw [if_neg hnum, if_neg hscaled, pattern_mul_left hk hnum hden]

theorem ofBits_of_le_infinity {n : Nat} (h : n ≤ infinityBits) :
    (ofBits n).bits.toNat = n ∧ (ofBits n).magnitude = n := by
  have hsign : infinityBits < 2 ^ 63 := by decide
  have hsize : 2 ^ 63 < UInt64.size := by decide
  have hlt : n < 2 ^ 63 := by omega
  have hbits : (ofBits n).bits.toNat = n := UInt64.toNat_ofNat_of_lt' (by omega)
  refine ⟨hbits, ?_⟩
  rw [magnitude, hbits]
  exact Nat.mod_eq_of_lt hlt

theorem ofBits_sound {n : Nat} (h : n ≤ infinityBits) :
    (ofBits n).isNaN = false ∧ (ofBits n).isNegative = false := by
  have hsign : infinityBits < 2 ^ 63 := by decide
  obtain ⟨hbits, hmagnitude⟩ := ofBits_of_le_infinity h
  simp only [isNaN, isNegative, hmagnitude, hbits, decide_eq_false_iff_not, Nat.pow_eq]
  omega

/-- The number nearest to a ratio is a number, and not a negative one. -/
theorem ofRatio_sound (num den : Nat) :
    (ofRatio num den).isNaN = false ∧ (ofRatio num den).isNegative = false := by
  unfold ofRatio
  split
  · exact ofBits_sound (Nat.zero_le _)
  · exact ofBits_sound (Nat.min_le_right _ _)

/-! ## Exact values -/

theorem magnitude_eq_of_scale (x : Binary64) :
    x.magnitude = x.scale * 2 ^ 52 + x.significand ∧
      x.significand < 2 ^ 53 ∧ (x.scale ≠ 0 → 2 ^ 52 ≤ x.significand) := by
  have hsplit := Nat.div_add_mod x.magnitude (2 ^ 52)
  have hmod := Nat.mod_lt x.magnitude (Nat.two_pow_pos 52)
  unfold scale significand
  simp only [Nat.pow_eq]
  by_cases hsmall : x.magnitude < 2 ^ 52
  · have hdiv : x.magnitude / 2 ^ 52 = 0 := Nat.div_eq_of_lt hsmall
    rw [if_pos hsmall, hdiv]
    omega
  · have hdiv : 0 < x.magnitude / 2 ^ 52 := Nat.div_pos (by omega) (Nat.two_pow_pos 52)
    rw [if_neg hsmall]
    omega

theorem isOctave_scale (x : Binary64) :
    IsOctave (x.significand * 2 ^ x.scale) (2 ^ 1074) x.scale := by
  obtain ⟨-, hhigh, hlow⟩ := x.magnitude_eq_of_scale
  unfold IsOctave
  rw [Nat.mul_assoc, ← Nat.pow_add 2 x.scale 1022, ← Nat.pow_add 2 1074 (x.scale + 1),
    ← Nat.pow_add 2 1074 x.scale]
  constructor
  · have hexp : 1074 + (x.scale + 1) = 53 + (x.scale + 1022) := by omega
    rw [hexp, Nat.pow_add 2 53]
    exact Nat.mul_lt_mul_of_pos_right hhigh (Nat.two_pow_pos _)
  · intro hscale
    have hexp : 1074 + x.scale = 52 + (x.scale + 1022) := by omega
    rw [hexp, Nat.pow_add 2 52]
    exact Nat.mul_le_mul_right _ (hlow hscale)

/-- A finite number is the nearest to its own value. -/
theorem ofRatio_exact {x : Binary64} (hfinite : x.isFinite = true) :
    ofRatio (x.significand * 2 ^ x.scale) (2 ^ 1074) = ofBits x.magnitude := by
  obtain ⟨hmagnitude, -, -⟩ := x.magnitude_eq_of_scale
  by_cases hzero : x.significand * 2 ^ x.scale = 0
  · have hsignificand : x.significand = 0 :=
      (Nat.mul_eq_zero.mp hzero).resolve_right (Nat.ne_of_gt (Nat.two_pow_pos _))
    have hscale : x.scale = 0 := by
      by_cases hscale : x.scale = 0
      · exact hscale
      · have hlow := x.magnitude_eq_of_scale.2.2 hscale
        omega
    have hnothing : x.magnitude = 0 := by
      rw [hmagnitude, hsignificand, hscale, Nat.zero_mul]
    rw [ofRatio, if_pos hzero, hnothing]
  · have hoctave : octave (x.significand * 2 ^ x.scale) (2 ^ 1074) = x.scale :=
      octave_eq hzero (Nat.ne_of_gt (Nat.two_pow_pos 1074)) x.isOctave_scale
    have hquotient : roundQuotient (x.significand * 2 ^ x.scale * 2 ^ 1074)
        (2 ^ 1074 * 2 ^ x.scale) = x.significand := by
      rw [Nat.mul_assoc, Nat.mul_comm (2 ^ x.scale)]
      exact roundQuotient_mul_right x.significand
        (Nat.mul_pos (Nat.two_pow_pos 1074) (Nat.two_pow_pos x.scale))
    have hpattern : pattern (x.significand * 2 ^ x.scale) (2 ^ 1074) = x.magnitude := by
      unfold pattern
      simp only [Nat.pow_eq, hoctave, hquotient]
      exact hmagnitude.symm
    have hbound : x.magnitude < infinityBits := by simpa [isFinite] using hfinite
    rw [ofRatio, if_neg hzero, hpattern, Nat.min_eq_left (Nat.le_of_lt hbound)]

end StatementLexer.Binary64
