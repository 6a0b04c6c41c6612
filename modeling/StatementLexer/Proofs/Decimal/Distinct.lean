import StatementLexer.Proofs.Decimal.ReadBack
import StatementLexer.Proofs.Text.Lines

/-! # Numbers told apart by their texts

A layout writes a number as a numeral, with an exponent, or by name if it is infinite. The three
forms have no text in common, and within each the text gives the number back. So no two numbers of
one sign are written alike, whatever the layout. Main statement: `write_inj`.
-/

namespace StatementLexer

theorem toDigits_inj {m n : Nat} (h : Nat.toDigits 10 m = Nat.toDigits 10 n) : m = n := by
  have hread := congrArg (Nat.ofDigitChars 10 · 0) h
  simpa only [Nat.ofDigitChars_ten_toDigits] using hread

namespace Layout

/-! ## Texts with an exponent -/

/-- The digits with a point behind the first, if there are more. -/
def leadText (n : Nat) : List Char :=
  let digits := Nat.toDigits 10 n
  digits.take 1 ++ (if digits.length = 1 then [] else '.' :: digits.drop 1)

def orderSign (layout : Layout) (order : Int) : List Char :=
  if order < 0 then ['-'] else if layout.exponentPlus then ['+'] else []

def orderText (layout : Layout) (order : Int) : List Char :=
  layout.orderSign order ++ Nat.toDigits 10 order.natAbs

theorem exponentText_eq (layout : Layout) (d : Decimal) :
    layout.exponentText d = leadText d.coefficient ++
      'e' :: layout.orderText (d.exponent + (Nat.toDigits 10 d.coefficient).length - 1) := by
  simp [exponentText, leadText, orderText, orderSign]

theorem filter_toDigits (n : Nat) : (Nat.toDigits 10 n).filter Char.isDigit = Nat.toDigits 10 n :=
  Numeral.filter_of_digits fun _ => isDigit_of_mem_toDigits

theorem filter_leadText (n : Nat) : (leadText n).filter Char.isDigit = Nat.toDigits 10 n := by
  have hpoint : Char.isDigit '.' = false := by decide
  unfold leadText
  by_cases hone : (Nat.toDigits 10 n).length = 1
  · have htake : (Nat.toDigits 10 n).take 1 = Nat.toDigits 10 n :=
      List.take_of_length_le (Nat.le_of_eq hone)
    simp only [hone, htake, if_true, List.append_nil]
    exact filter_toDigits n
  · simp only [if_neg hone, List.filter_append, List.filter_cons, hpoint, Bool.false_eq_true,
      if_false]
    rw [← List.filter_append, List.take_append_drop]
    exact filter_toDigits n

theorem leadText_chars {n : Nat} {c : Char} (h : c ∈ leadText n) : c.isDigit = true ∨ c = '.' := by
  unfold leadText at h
  rcases List.mem_append.mp h with hfirst | hrest
  · exact .inl (isDigit_of_mem_toDigits (List.mem_of_mem_take hfirst))
  · split at hrest
    · simp at hrest
    · rcases List.mem_cons.mp hrest with hpoint | hmore
      · exact .inr hpoint
      · exact .inl (isDigit_of_mem_toDigits (List.mem_of_mem_drop hmore))

theorem orderSign_chars {layout : Layout} {order : Int} {c : Char}
    (h : c ∈ layout.orderSign order) : (c = '-' ∧ order < 0) ∨ c = '+' := by
  unfold orderSign at h
  split at h
  next hneg => exact .inl ⟨List.mem_singleton.mp h, hneg⟩
  next =>
    split at h
    · exact .inr (List.mem_singleton.mp h)
    · simp at h

theorem filter_orderText (layout : Layout) (order : Int) :
    (layout.orderText order).filter Char.isDigit = Nat.toDigits 10 order.natAbs := by
  have hsign : (layout.orderSign order).filter Char.isDigit = [] := by
    rw [List.filter_eq_nil_iff]
    intro c hc
    rcases orderSign_chars hc with ⟨rfl, -⟩ | rfl <;> decide
  rw [orderText, List.filter_append, hsign, List.nil_append, filter_toDigits]

theorem minus_mem_orderText (layout : Layout) (order : Int) :
    '-' ∈ layout.orderText order ↔ order < 0 := by
  constructor
  · intro h
    rcases List.mem_append.mp h with hsign | hdigit
    · rcases orderSign_chars hsign with ⟨-, hneg⟩ | hplus
      · exact hneg
      · exact absurd hplus (by decide)
    · exact absurd (isDigit_of_mem_toDigits hdigit) (by decide)
  · intro h
    simp [orderText, orderSign, h]

theorem orderText_inj {layout : Layout} {a b : Int}
    (h : layout.orderText a = layout.orderText b) : a = b := by
  have hsize : a.natAbs = b.natAbs := by
    apply toDigits_inj
    rw [← filter_orderText layout a, h, filter_orderText]
  have hsign : a < 0 ↔ b < 0 := by
    rw [← minus_mem_orderText layout a, h, minus_mem_orderText]
  omega

theorem exponentText_inj {layout : Layout} {d d' : Decimal}
    (h : layout.exponentText d = layout.exponentText d') : d = d' := by
  rw [exponentText_eq, exponentText_eq] at h
  have hlead : ∀ n, 'e' ∉ leadText n := by
    intro n he
    rcases leadText_chars he with hdigit | hpoint
    · exact absurd hdigit (by decide)
    · exact absurd hpoint (by decide)
  obtain ⟨hdigits, horder⟩ := append_cons_inj (hlead _) (hlead _) h
  have hcoefficient : d.coefficient = d'.coefficient := by
    apply toDigits_inj
    rw [← filter_leadText, hdigits, filter_leadText]
  have hexponent := orderText_inj horder
  rw [hcoefficient] at hexponent
  obtain ⟨c, e⟩ := d
  obtain ⟨c', e'⟩ := d'
  obtain rfl : c = c' := hcoefficient
  have hsame : e = e' := by
    dsimp only at hexponent
    omega
  rw [hsame]

/-! ## The forms of a number -/

/-- The texts that a layout gives to numbers that are not negative. -/
inductive Tells (layout : Layout) : List Char → Binary64 → Prop where
  | infinite : Tells layout ['i', 'n', 'f'] (.ofBits Binary64.infinityBits)
  | positional (cs : List Char) : Numeral.HasShape cs →
      Tells layout cs (Numeral.value cs)
  | exponent (d : Decimal) : Tells layout (layout.exponentText d) d.toBinary64

theorem exponentText_chars {layout : Layout} {d : Decimal} {c : Char}
    (h : c ∈ layout.exponentText d) : c.isDigit = true ∨ c ∈ ['.', 'e', '+', '-'] := by
  rw [exponentText_eq] at h
  rcases List.mem_append.mp h with hlead | htail
  · rcases leadText_chars hlead with hdigit | rfl
    · exact .inl hdigit
    · exact .inr (by decide)
  · rcases List.mem_cons.mp htail with rfl | horder
    · exact .inr (by decide)
    · rcases List.mem_append.mp horder with hsign | hdigit
      · rcases orderSign_chars hsign with ⟨rfl, -⟩ | rfl
        · exact .inr (by decide)
        · exact .inr (by decide)
      · exact .inl (isDigit_of_mem_toDigits hdigit)

theorem Tells.chars {layout : Layout} {cs : List Char} {x : Binary64} (h : layout.Tells cs x) :
    ∀ c ∈ cs, c.isDigit = true ∨ c ∈ ['.', 'e', '+', '-', 'i', 'n', 'f'] := by
  intro c hc
  cases h with
  | infinite => exact .inr (List.mem_append_right ['.', 'e', '+', '-'] hc)
  | positional _ hnumeral =>
      rcases hnumeral.1 c hc with hdigit | rfl
      · exact .inl hdigit
      · exact .inr (by decide)
  | exponent d =>
      rcases exponentText_chars hc with hdigit | hmark
      · exact .inl hdigit
      · exact .inr (List.mem_append_left ['i', 'n', 'f'] hmark)

theorem e_mem_exponentText (layout : Layout) (d : Decimal) : 'e' ∈ layout.exponentText d := by
  rw [exponentText_eq]
  simp

theorem Tells.unique {layout : Layout} {cs cs' : List Char} {x y : Binary64} (hcs : cs = cs')
    (h : layout.Tells cs x) (h' : layout.Tells cs' y) : x = y := by
  have hinfinite : ∀ d, ['i', 'n', 'f'] ≠ layout.exponentText d := by
    intro d heq
    have hmem : 'e' ∈ ['i', 'n', 'f'] := heq ▸ e_mem_exponentText layout d
    exact absurd hmem (by decide)
  have hpositional : ∀ d, ¬ Numeral.HasShape (layout.exponentText d) := by
    intro d hnumeral
    rcases hnumeral.1 'e' (e_mem_exponentText layout d) with hdigit | hpoint
    · exact absurd hdigit (by decide)
    · exact absurd hpoint (by decide)
  cases h with
  | infinite =>
      cases h' with
      | infinite => rfl
      | positional _ hnumeral =>
          rw [← hcs] at hnumeral
          exact absurd hnumeral (by decide)
      | exponent d => exact absurd hcs (hinfinite d)
  | positional _ hnumeral =>
      cases h' with
      | infinite =>
          rw [hcs] at hnumeral
          exact absurd hnumeral (by decide)
      | positional _ _ => rw [hcs]
      | exponent d =>
          rw [hcs] at hnumeral
          exact absurd hnumeral (hpositional d)
  | exponent d =>
      cases h' with
      | infinite => exact absurd hcs.symm (hinfinite d)
      | positional _ hnumeral =>
          rw [← hcs] at hnumeral
          exact absurd hnumeral (hpositional d)
      | exponent d' => rw [exponentText_inj hcs]

theorem decimalText_tells (layout : Layout) (d : Decimal) :
    layout.Tells (layout.decimalText d) d.toBinary64 := by
  have hpositional : layout.Tells (layout.positionalText d) d.toBinary64 := by
    obtain ⟨hnumeral, hvalue⟩ := positionalText_spec layout d
    rw [← hvalue]
    exact .positional _ hnumeral
  simp only [decimalText]
  split
  · exact hpositional
  · split
    · exact hpositional
    · exact .exponent d

theorem magnitudeText_tells (layout : Layout) {x : Binary64} (hfinite : x.isFinite = true)
    (hsign : x.isNegative = false) : layout.Tells (layout.magnitudeText x) x := by
  have hbits := ofBits_magnitude hsign
  unfold magnitudeText
  by_cases hzero : x.isZero = true
  · have hmagnitude : x.magnitude = 0 := by simpa [Binary64.isZero] using hzero
    have hnumber : x = .ofBits 0 := by rw [← hbits, hmagnitude]
    rw [if_pos hzero, hnumber]
    split
    · exact .positional ['0', '.', '0'] (by decide)
    · exact .positional ['0'] (by decide)
  · have htells := decimalText_tells layout (Decimal.shortest layout.tie x)
    rw [Decimal.toBinary64_shortest layout.tie hfinite hbits] at htells
    rw [if_neg hzero, hbits]
    exact htells

theorem write_tells (layout : Layout) {x : Binary64} (hnan : x.isNaN = false)
    (hsign : x.isNegative = false) : layout.Tells (layout.write x).toList x := by
  cases hfinite : x.isFinite with
  | true =>
      rw [write_of_finite layout hfinite hsign]
      exact magnitudeText_tells layout hfinite hsign
  | false =>
      have hmagnitude : x.magnitude = Binary64.infinityBits := by
        simp only [Binary64.isNaN, Binary64.isFinite, decide_eq_false_iff_not] at hnan hfinite
        omega
      have hnumber : x = .ofBits Binary64.infinityBits := by
        rw [← ofBits_magnitude hsign, hmagnitude]
      have htext : (layout.write x).toList = ['i', 'n', 'f'] := by
        simp [write, hnan, hsign, hfinite]
      rw [htext, hnumber]
      exact .infinite

/-- No two numbers that are not negative are written alike. -/
theorem write_inj (layout : Layout) {x y : Binary64} (hx : x.isNaN = false ∧ x.isNegative = false)
    (hy : y.isNaN = false ∧ y.isNegative = false) (h : layout.write x = layout.write y) : x = y :=
  Tells.unique (congrArg String.toList h) (layout.write_tells hx.1 hx.2)
    (layout.write_tells hy.1 hy.2)

end Layout

end StatementLexer
