import StatementLexer.Proofs.Decimal.ReadBack

/-! # The length of a number's text

A finite number has a bounded number of exact digits, of which its shortest decimal keeps some and
drops the others. So its coefficient and its exponent are bounded, and so is the positional text
that they make. Main statement: `isNumeral_write`.
-/

namespace StatementLexer

namespace Binary64

theorem significand_le (x : Binary64) : x.significand ≤ 2 ^ 53 := by
  unfold significand
  have hmod := Nat.mod_lt x.magnitude (Nat.two_pow_pos 52)
  simp only [Nat.pow_eq] at *
  split <;> omega

theorem scale_le {x : Binary64} (hfinite : x.isFinite = true) : x.scale ≤ 2045 := by
  have hlt : x.magnitude < infinityBits := by simpa [isFinite] using hfinite
  simp only [infinityBits] at hlt
  simp only [scale, Nat.pow_eq]
  omega

end Binary64

namespace Decimal

/-- A coefficient of no more than `n` digits and an exponent of no more than `n` places. -/
structure Bounded (n : Nat) (d : Decimal) : Prop where
  coefficient : d.coefficient < 10 ^ n
  exponent : d.exponent.natAbs ≤ n

theorem exactPlaces_le (x : Binary64) : exactPlaces x ≤ 1074 :=
  Nat.sub_le _ _

section

variable {n : Nat} {x : Binary64}

theorem units_le (hplaces : exactPlaces x ≤ n) (hscale : 53 + (x.scale - 1074) ≤ n) :
    units x ≤ 10 ^ n := by
  have htwo : x.significand * 2 ^ (x.scale - 1074) ≤ 2 ^ n := by
    calc
      x.significand * 2 ^ (x.scale - 1074) ≤ 2 ^ 53 * 2 ^ (x.scale - 1074) :=
        Nat.mul_le_mul_right _ x.significand_le
      _ = 2 ^ (53 + (x.scale - 1074)) := (Nat.pow_add ..).symm
      _ ≤ 2 ^ n := Nat.pow_le_pow_right (by decide) hscale
  have hfive : 5 ^ exactPlaces x ≤ 5 ^ n := Nat.pow_le_pow_right (by decide) hplaces
  calc
    units x = x.significand * 2 ^ (x.scale - 1074) * 5 ^ exactPlaces x := units_eq x
    _ ≤ 2 ^ n * 5 ^ n := Nat.mul_le_mul htwo hfive
    _ = 10 ^ n := by rw [ten_pow_eq, Nat.mul_comm]

theorem digitCount_le {c : Nat} (hn : 0 < n) (h : c < 10 ^ n) : digitCount c ≤ n :=
  (Nat.length_toDigits_le_iff (by decide) hn).mpr h

theorem succ_lt_ten_pow {c : Nat} (h : c ≤ 10 ^ n) : c + 1 < 10 ^ (n + 1) := by
  have hpos : 0 < 10 ^ n := Nat.pow_pos (by decide)
  rw [Nat.pow_succ]
  omega

/-- Whichever side of the cut is taken, the coefficient is at most one more than the exact value. -/
theorem bounded_of_cut? {tie : Tie} {c dropped : Nat} {d : Decimal}
    (hc : c ≤ 10 ^ n) (hdropped : dropped ≤ n + 1) (hplaces : exactPlaces x ≤ n + 1)
    (h : cut? tie x c dropped = some d) : d.Bounded (n + 1) := by
  have hquotient : c / Nat.pow 10 dropped ≤ c := Nat.div_le_self _ _
  have hlt := succ_lt_ten_pow hc
  have hmem := List.mem_of_find?_eq_some h
  have hsides : d = ⟨c / Nat.pow 10 dropped, Int.ofNat dropped - Int.ofNat (exactPlaces x)⟩ ∨
      d = ⟨c / Nat.pow 10 dropped + 1, Int.ofNat dropped - Int.ofNat (exactPlaces x)⟩ := by
    split at hmem
    · simpa [or_comm] using hmem
    · simpa using hmem
  simp only [Int.ofNat_eq_natCast] at hsides
  rcases hsides with rfl | rfl
  · exact ⟨by dsimp only; omega, by dsimp only; omega⟩
  · exact ⟨by dsimp only; omega, by dsimp only; omega⟩

theorem Bounded.trimZeros {d : Decimal} (hn : 0 < n) (h : d.Bounded n) :
    d.trimZeros.Bounded (2 * n) := by
  have hzeros : ((Nat.toDigits 10 d.coefficient).reverse.takeWhile (· == '0')).length ≤ n := by
    refine Nat.le_trans (List.takeWhile_sublist _).length_le ?_
    rw [List.length_reverse]
    exact digitCount_le hn h.coefficient
  have hexponent := h.exponent
  have hcoefficient : d.coefficient < 10 ^ (2 * n) :=
    Nat.lt_of_lt_of_le h.coefficient (Nat.pow_le_pow_right (by decide) (by omega))
  unfold Decimal.trimZeros
  refine ⟨Nat.lt_of_le_of_lt (Nat.div_le_self _ _) hcoefficient, ?_⟩
  dsimp only
  omega

theorem bounded_shortest (tie : Tie) (hplaces : exactPlaces x ≤ n)
    (hscale : 53 + (x.scale - 1074) ≤ n) : (shortest tie x).Bounded (2 * (n + 1)) := by
  have hunits := units_le hplaces hscale
  have hcount : digitCount (units x) ≤ n + 1 :=
    digitCount_le n.succ_pos (Nat.lt_of_succ_lt (succ_lt_ten_pow hunits))
  unfold shortest
  simp only
  split
  next d hd =>
    obtain ⟨kept, -, hcut⟩ := List.exists_of_findSome?_eq_some hd
    exact (bounded_of_cut? hunits (by omega) (by omega) hcut).trimZeros n.succ_pos
  next =>
    have hexact : Bounded (n + 1) ⟨units x, -Int.ofNat (exactPlaces x)⟩ := by
      refine ⟨Nat.lt_of_succ_lt (succ_lt_ten_pow hunits), ?_⟩
      simp only [Int.ofNat_eq_natCast]
      omega
    exact hexact.trimZeros n.succ_pos

end

end Decimal

namespace Layout

theorem length_positionalText_le (layout : Layout) {n : Nat} {d : Decimal} (hn : 0 < n)
    (h : d.Bounded n) : (layout.positionalText d).length ≤ 2 * n + 2 := by
  obtain ⟨c, exponent⟩ := d
  have hdigits : (Nat.toDigits 10 c).length ≤ n := Decimal.digitCount_le hn h.coefficient
  cases exponent with
  | ofNat e =>
      have hexponent : e ≤ n := h.exponent
      have htail : (if layout.wholeFraction then ['.', '0'] else []).length ≤ 2 := by
        split <;> decide
      simp only [positionalText, zeros, List.length_append, List.length_replicate]
      omega
  | negSucc e =>
      have hexponent : e + 1 ≤ n := h.exponent
      simp only [positionalText]
      split
      · rw [List.length_append, List.length_cons, List.length_take, List.length_drop]
        omega
      · simp only [zeros, List.cons_append, List.length_cons, List.length_append,
          List.length_replicate]
        omega

/-- The text of a number is short enough to be counted. -/
theorem isNumeral_write {x : Binary64} (hfinite : x.isFinite = true)
    (hsign : x.isNegative = false) : Numeral.isNumeral (plain.write x).toList = true := by
  have hlength : (plain.write x).toList.length < 2 ^ 31 := by
    rw [write_of_finite plain hfinite hsign]
    unfold magnitudeText
    split
    · decide
    · rw [ofBits_magnitude hsign]
      have hscale := Binary64.scale_le hfinite
      have hbounded := Decimal.bounded_shortest plain.tie (Decimal.exactPlaces_le x)
        (show 53 + (x.scale - 1074) ≤ 1074 by omega)
      exact Nat.lt_of_le_of_lt (length_positionalText_le plain (by decide) hbounded) (by decide)
  exact (Numeral.isNumeral_iff hlength).mpr (value_write hfinite hsign).1

end Layout

end StatementLexer
