import Mathlib.Data.List.TakeWhile
import StatementLexer.Decimal.Layout
import StatementLexer.Proofs.Decimal.Counting
import StatementLexer.Proofs.Decimal.Rounding

/-! # Numbers read back

A finite number that is not negative is written as a numeral, and the numeral has that number as its
value. Three steps lose nothing: the decimal that is chosen reads back as the number, its zeros at
the end may be dropped, and the positional text of a decimal is a numeral with its value. Main
statement: `value_write`.
-/

namespace StatementLexer

/-! ## Values of decimals -/

namespace Decimal

/-- The value of a decimal as a ratio of powers of ten, common factors not counting. -/
theorem toBinary64_sub (c a b : Nat) :
    toBinary64 ⟨c, (a : Int) - b⟩ = Binary64.ofRatio (c * 10 ^ a) (10 ^ b) := by
  have hpow : ∀ n, 0 < 10 ^ n := fun n => Nat.pow_pos (by decide)
  by_cases hle : b ≤ a
  · obtain ⟨k, rfl⟩ := Nat.exists_eq_add_of_le hle
    have hexponent : ((b + k : Nat) : Int) - b = Int.ofNat k := by
      simp only [Int.ofNat_eq_natCast]
      omega
    have hscaled : c * 10 ^ (b + k) = 10 ^ b * (c * 10 ^ k) := by
      rw [Nat.pow_add, Nat.mul_left_comm]
    rw [hexponent, hscaled]
    have hratio := Binary64.ofRatio_mul_left (hpow b) Nat.one_ne_zero (c * 10 ^ k)
    rw [Nat.mul_one] at hratio
    exact hratio.symm
  · obtain ⟨k, rfl⟩ := Nat.exists_eq_add_of_lt (Nat.not_le.mp hle)
    have hexponent : (a : Int) - (a + k + 1 : Nat) = Int.negSucc k := by omega
    have hscaled : c * 10 ^ a = 10 ^ a * c := Nat.mul_comm _ _
    have hden : 10 ^ (a + k + 1) = 10 ^ a * 10 ^ (k + 1) := by rw [← Nat.pow_add, Nat.add_assoc]
    rw [hexponent, hscaled, hden, Binary64.ofRatio_mul_left (hpow a) (Nat.ne_of_gt (hpow _))]
    rfl

/-- Zeros at the end of the coefficient may move to the exponent. -/
theorem toBinary64_mul_pow (c z : Nat) (e : Int) :
    toBinary64 ⟨c * 10 ^ z, e⟩ = toBinary64 ⟨c, e + z⟩ := by
  obtain ⟨a, b, rfl⟩ : ∃ a b : Nat, e = (a : Int) - b := ⟨e.toNat, (-e).toNat, by omega⟩
  have hexponent : (a : Int) - b + z = (a + z : Nat) - b := by omega
  rw [hexponent, toBinary64_sub, toBinary64_sub, Nat.mul_assoc, ← Nat.pow_add, Nat.add_comm z]

theorem eq_append_zeros (digits : List Char) :
    ∃ front, digits = front ++ List.replicate (digits.reverse.takeWhile (· == '0')).length '0' := by
  have hsplit := List.takeWhile_append_dropWhile (p := (· == '0')) (l := digits.reverse)
  have hzeros : digits.reverse.takeWhile (· == '0') =
      List.replicate (digits.reverse.takeWhile (· == '0')).length '0' := by
    rw [List.eq_replicate_iff]
    refine ⟨rfl, fun c hc => ?_⟩
    simpa using List.all_eq_true.mp List.all_takeWhile c hc
  refine ⟨(digits.reverse.dropWhile (· == '0')).reverse, ?_⟩
  have hdigits := congrArg List.reverse hsplit
  rw [List.reverse_append, List.reverse_reverse, hzeros, List.reverse_replicate] at hdigits
  exact hdigits.symm

theorem toBinary64_trimZeros (d : Decimal) : d.trimZeros.toBinary64 = d.toBinary64 := by
  obtain ⟨c, e⟩ := d
  unfold trimZeros
  simp only [Nat.pow_eq]
  obtain ⟨front, hfront⟩ := eq_append_zeros (Nat.toDigits 10 c)
  generalize ((Nat.toDigits 10 c).reverse.takeWhile (· == '0')).length = z at hfront
  have hvalue : c = Nat.ofDigitChars 10 front 0 * 10 ^ z := by
    have hread := Nat.ofDigitChars_ten_toDigits (n := c)
    rw [hfront, Nat.ofDigitChars_append, Nat.ofDigitChars_replicate_zero, Nat.mul_comm] at hread
    exact hread.symm
  have hquotient : c / 10 ^ z = Nat.ofDigitChars 10 front 0 := by
    rw [hvalue]
    exact Nat.mul_div_cancel _ (Nat.pow_pos (by decide))
  rw [hquotient, ← toBinary64_mul_pow, ← hvalue]

/-! ## The decimal of a number -/

theorem toBinary64_of_cut? {tie : Tie} {x : Binary64} {n dropped : Nat} {d : Decimal}
    (h : cut? tie x n dropped = some d) : d.toBinary64 = x := by
  have hfound := List.find?_some h
  have hbits : d.toBinary64.bits = x.bits := by simpa using hfound
  cases hx : d.toBinary64
  cases x
  simp_all

theorem ten_pow_eq (n : Nat) : 10 ^ n = 5 ^ n * 2 ^ n := by
  rw [← Nat.mul_pow]

theorem units_eq (x : Binary64) :
    units x = x.significand * 2 ^ (x.scale - 1074) * 5 ^ exactPlaces x := by
  simp only [units, Nat.pow_eq]

/-- All digits of a finite number read back as the number. -/
theorem toBinary64_units {x : Binary64} (hfinite : x.isFinite = true) :
    toBinary64 ⟨units x, -Int.ofNat (exactPlaces x)⟩ = Binary64.ofBits x.magnitude := by
  have hexponent : -Int.ofNat (exactPlaces x) = ((0 : Nat) : Int) - exactPlaces x := by simp
  have hfive : units x * 10 ^ 0 = 5 ^ exactPlaces x * (x.significand * 2 ^ (x.scale - 1074)) := by
    rw [units_eq, Nat.pow_zero, Nat.mul_one, Nat.mul_comm]
  have hscale : 2 ^ x.scale = 2 ^ min x.scale 1074 * 2 ^ (x.scale - 1074) := by
    have hsum : x.scale = min x.scale 1074 + (x.scale - 1074) := by omega
    rw [← Nat.pow_add, ← hsum]
  have hplaces : 2 ^ 1074 = 2 ^ min x.scale 1074 * 2 ^ exactPlaces x := by
    have hsum : 1074 = min x.scale 1074 + exactPlaces x := by
      unfold exactPlaces
      omega
    rw [← Nat.pow_add, ← hsum]
  have hnum : x.significand * 2 ^ x.scale =
      2 ^ min x.scale 1074 * (x.significand * 2 ^ (x.scale - 1074)) := by
    rw [hscale, Nat.mul_left_comm]
  rw [hexponent, toBinary64_sub, ← Binary64.ofRatio_exact hfinite, hfive, ten_pow_eq, hnum, hplaces,
    Binary64.ofRatio_mul_left (Nat.pow_pos (by decide)) (Nat.ne_of_gt (Nat.two_pow_pos _)),
    Binary64.ofRatio_mul_left (Nat.two_pow_pos _) (Nat.ne_of_gt (Nat.two_pow_pos _))]

theorem toBinary64_shortest (tie : Tie) {x : Binary64} (hfinite : x.isFinite = true)
    (hbits : Binary64.ofBits x.magnitude = x) : (shortest tie x).toBinary64 = x := by
  unfold shortest
  simp only
  split
  next d hd =>
    obtain ⟨kept, -, hcut⟩ := List.exists_of_findSome?_eq_some hd
    rw [toBinary64_trimZeros]
    exact toBinary64_of_cut? hcut
  next =>
    rw [toBinary64_trimZeros, toBinary64_units hfinite, hbits]

end Decimal

/-! ## The value of a text -/

namespace Numeral

theorem digitsValue_eq (cs : List Char) :
    digitsValue cs = Nat.ofDigitChars 10 (cs.filter Char.isDigit) 0 := by
  rw [Nat.ofDigitChars_eq_foldl, List.foldl_filter]
  rfl

theorem filter_of_digits {cs : List Char} (h : ∀ c ∈ cs, c.isDigit = true) :
    cs.filter Char.isDigit = cs :=
  List.filter_eq_self.mpr h

theorem places_of_not_mem {cs : List Char} (h : '.' ∉ cs) : places cs = 0 := by
  have hdrop : cs.dropWhile (· != '.') = [] := by
    rw [List.dropWhile_eq_nil_iff]
    intro c hc
    have hne : c ≠ '.' := fun heq => h (heq ▸ hc)
    simpa using hne
  simp [places, hdrop]

theorem places_append_point {whole : List Char} (h : '.' ∉ whole) (fraction : List Char) :
    places (whole ++ '.' :: fraction) = fraction.length := by
  have hwhole : ∀ c ∈ whole, (c != '.') = true := by
    intro c hc
    have hne : c ≠ '.' := fun heq => h (heq ▸ hc)
    simpa using hne
  unfold places
  rw [List.dropWhile_append_of_pos hwhole]
  simp

section

variable {whole fraction : List Char} (hwhole : ∀ c ∈ whole, c.isDigit = true)
  (hfraction : ∀ c ∈ fraction, c.isDigit = true)

include hwhole

theorem value_of_digits :
    value whole = Binary64.ofRatio (Nat.ofDigitChars 10 whole 0) 1 := by
  rw [value, digitsValue_eq, filter_of_digits hwhole,
    places_of_not_mem (not_mem_point_of_digits hwhole)]

include hfraction

theorem value_of_point :
    value (whole ++ '.' :: fraction) =
      Binary64.ofRatio (Nat.ofDigitChars 10 (whole ++ fraction) 0) (10 ^ fraction.length) := by
  have hfilter : (whole ++ '.' :: fraction).filter Char.isDigit = whole ++ fraction := by
    have hpoint : Char.isDigit '.' = false := by decide
    rw [List.filter_append, List.filter_cons, hpoint, filter_of_digits hwhole,
      filter_of_digits hfraction]
    rfl
  rw [value, digitsValue_eq, hfilter, places_append_point (not_mem_point_of_digits hwhole),
    Nat.pow_eq]

end

end Numeral

/-! ## The text of a number -/

namespace Layout

theorem isDigit_of_mem_zeros {n : Nat} {c : Char} (h : c ∈ zeros n) : c.isDigit = true := by
  obtain rfl : c = '0' := List.eq_of_mem_replicate h
  decide

theorem isDigit_of_mem_toDigits {n : Nat} {c : Char} (h : c ∈ Nat.toDigits 10 n) :
    c.isDigit = true :=
  Nat.isDigit_of_mem_toDigits (by decide) (by decide) h

section

variable (layout : Layout) (c e : Nat)

/-- A whole number keeps its value with a fraction of zero behind it. -/
theorem positionalText_whole :
    Numeral.HasShape (layout.positionalText ⟨c, .ofNat e⟩) ∧
      Numeral.value (layout.positionalText ⟨c, .ofNat e⟩) = Decimal.toBinary64 ⟨c, .ofNat e⟩ := by
  have hall : ∀ x ∈ Nat.toDigits 10 c ++ zeros e, x.isDigit = true := by
    intro x hx
    rcases List.mem_append.mp hx with hx | hx
    · exact isDigit_of_mem_toDigits hx
    · exact isDigit_of_mem_zeros hx
  have hne : Nat.toDigits 10 c ++ zeros e ≠ [] := by simp [Nat.toDigits_ne_nil]
  have hvalue : Nat.ofDigitChars 10 (Nat.toDigits 10 c ++ zeros e) 0 = c * 10 ^ e := by
    rw [Nat.ofDigitChars_append, Nat.ofDigitChars_ten_toDigits, zeros,
      Nat.ofDigitChars_replicate_zero, Nat.mul_comm]
  cases hfraction : layout.wholeFraction with
  | false =>
      have htext : layout.positionalText ⟨c, .ofNat e⟩ = Nat.toDigits 10 c ++ zeros e := by
        simp [positionalText, hfraction]
      rw [htext, Numeral.value_of_digits hall, hvalue]
      exact ⟨Numeral.hasShape_of_digits hall hne, by simp [Decimal.toBinary64]⟩
  | true =>
      have htext : layout.positionalText ⟨c, .ofNat e⟩ =
          Nat.toDigits 10 c ++ zeros e ++ '.' :: ['0'] := by
        simp [positionalText, hfraction]
      have hzero : ∀ x ∈ ['0'], x.isDigit = true := List.all_eq_true.mp rfl
      have htenfold : Nat.ofDigitChars 10 (Nat.toDigits 10 c ++ zeros e ++ ['0']) 0 =
          10 * (c * 10 ^ e) := by
        rw [Nat.ofDigitChars_append, hvalue]
        simp [Nat.ofDigitChars_cons]
      have hratio := Binary64.ofRatio_mul_left (by decide : 0 < 10) Nat.one_ne_zero (c * 10 ^ e)
      rw [htext, Numeral.value_of_point hall hzero, htenfold]
      exact ⟨Numeral.hasShape_of_point hall hzero (by simp),
        by simpa [Decimal.toBinary64] using hratio⟩

/-- With more digits than places the point stands among the digits. -/
theorem positionalText_among (h : e + 1 < (Nat.toDigits 10 c).length) :
    Numeral.HasShape (layout.positionalText ⟨c, .negSucc e⟩) ∧
      Numeral.value (layout.positionalText ⟨c, .negSucc e⟩) =
        Decimal.toBinary64 ⟨c, .negSucc e⟩ := by
  generalize hcut : (Nat.toDigits 10 c).length - (e + 1) = cut
  have htext : layout.positionalText ⟨c, .negSucc e⟩ =
      (Nat.toDigits 10 c).take cut ++ '.' :: (Nat.toDigits 10 c).drop cut := by
    simp [positionalText, h, hcut]
  have hwhole : ∀ x ∈ (Nat.toDigits 10 c).take cut, x.isDigit = true := fun x hx =>
    isDigit_of_mem_toDigits (List.mem_of_mem_take hx)
  have hfraction : ∀ x ∈ (Nat.toDigits 10 c).drop cut, x.isDigit = true := fun x hx =>
    isDigit_of_mem_toDigits (List.mem_of_mem_drop hx)
  have hne : (Nat.toDigits 10 c).take cut ++ (Nat.toDigits 10 c).drop cut ≠ [] := by
    rw [List.take_append_drop]
    exact Nat.toDigits_ne_nil
  have hplaces : ((Nat.toDigits 10 c).drop cut).length = e + 1 := by
    rw [List.length_drop]
    omega
  rw [htext, Numeral.value_of_point hwhole hfraction, List.take_append_drop,
    Nat.ofDigitChars_ten_toDigits, hplaces]
  exact ⟨Numeral.hasShape_of_point hwhole hfraction hne, by simp [Decimal.toBinary64]⟩

/-- With no more digits than places zeros stand behind the point. -/
theorem positionalText_behind (h : ¬ e + 1 < (Nat.toDigits 10 c).length) :
    Numeral.HasShape (layout.positionalText ⟨c, .negSucc e⟩) ∧
      Numeral.value (layout.positionalText ⟨c, .negSucc e⟩) =
        Decimal.toBinary64 ⟨c, .negSucc e⟩ := by
  generalize hfill : e + 1 - (Nat.toDigits 10 c).length = fill
  have htext : layout.positionalText ⟨c, .negSucc e⟩ =
      ['0'] ++ '.' :: (zeros fill ++ Nat.toDigits 10 c) := by
    simp [positionalText, h, hfill]
  have hwhole : ∀ x ∈ ['0'], x.isDigit = true := List.all_eq_true.mp rfl
  have hfraction : ∀ x ∈ zeros fill ++ Nat.toDigits 10 c, x.isDigit = true := by
    intro x hx
    rcases List.mem_append.mp hx with hx | hx
    · exact isDigit_of_mem_zeros hx
    · exact isDigit_of_mem_toDigits hx
  have hplaces : (zeros fill ++ Nat.toDigits 10 c).length = e + 1 := by
    rw [List.length_append, zeros, List.length_replicate]
    omega
  have hvalue : Nat.ofDigitChars 10 (['0'] ++ (zeros fill ++ Nat.toDigits 10 c)) 0 = c := by
    rw [Nat.ofDigitChars_append, Nat.ofDigitChars_append, zeros, Nat.ofDigitChars_replicate_zero]
    simp [Nat.ofDigitChars_cons]
  rw [htext, Numeral.value_of_point hwhole hfraction, hvalue, hplaces]
  exact ⟨Numeral.hasShape_of_point hwhole hfraction (by simp), by simp [Decimal.toBinary64]⟩

end

/-- The positional text of a decimal is a numeral with the value of the decimal. -/
theorem positionalText_spec (layout : Layout) (d : Decimal) :
    Numeral.HasShape (layout.positionalText d) ∧
      Numeral.value (layout.positionalText d) = d.toBinary64 := by
  rcases d with ⟨c, e | e⟩
  · exact positionalText_whole layout c e
  · by_cases h : e + 1 < (Nat.toDigits 10 c).length
    · exact positionalText_among layout c e h
    · exact positionalText_behind layout c e h

theorem ofBits_magnitude {x : Binary64} (h : x.isNegative = false) :
    Binary64.ofBits x.magnitude = x := by
  have hlt : x.bits.toNat < 2 ^ 63 := by simpa [Binary64.isNegative] using h
  have hmagnitude : x.magnitude = x.bits.toNat := Nat.mod_eq_of_lt hlt
  rw [hmagnitude, Binary64.ofBits, UInt64.ofNat_toNat]

theorem write_of_finite (layout : Layout) {x : Binary64} (hfinite : x.isFinite = true)
    (hsign : x.isNegative = false) : (layout.write x).toList = layout.magnitudeText x := by
  have hnan : x.isNaN = false := by
    simp [Binary64.isFinite, Binary64.isNaN] at hfinite ⊢
    omega
  simp [write, hnan, hsign, hfinite]

/-- A finite number that is not negative is written as a numeral that has the number as its value. -/
theorem value_write {x : Binary64} (hfinite : x.isFinite = true) (hsign : x.isNegative = false) :
    Numeral.HasShape (plain.write x).toList ∧
      Numeral.value (plain.write x).toList = x := by
  have hbits := ofBits_magnitude hsign
  rw [write_of_finite plain hfinite hsign]
  unfold magnitudeText
  by_cases hzero : x.isZero = true
  · have hmagnitude : x.magnitude = 0 := by simpa [Binary64.isZero] using hzero
    rw [if_pos hzero]
    refine ⟨by decide, ?_⟩
    rw [← hbits, hmagnitude]
    rfl
  · rw [if_neg hzero, hbits]
    have hspec := positionalText_spec plain (Decimal.shortest .up x)
    rw [Decimal.toBinary64_shortest .up hfinite hbits] at hspec
    exact hspec

end Layout

end StatementLexer
