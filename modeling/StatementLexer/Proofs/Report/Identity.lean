import StatementLexer.Proofs.Decimal.ReadBack
import StatementLexer.Proofs.Text.Lines
import StatementLexer.Report.Code

/-! # Codes told apart by their texts

The text of a code is its family with the digits of its number behind it. A family without digits
ends where the first digit stands, and zeros in front of a number do not change it, so the text has
one family and one number, whether the number is filled up to four digits or has more. Main
statement: `code_told_by_text`.
-/

namespace StatementLexer

namespace Code

/-! ## Padded numbers -/

section

variable (n : Nat)

theorem toList_padded :
    (padded n).toList =
      Layout.zeros (4 - (Nat.toDigits 10 n).length) ++ Nat.toDigits 10 n := by
  simp [padded, Layout.zeros]

theorem padded_eq :
    padded n =
      String.ofList (Layout.zeros (4 - (Nat.toDigits 10 n).length)) ++ toString n := by
  rw [← String.toList_inj, toList_padded]
  simp

theorem ofDigitChars_padded : Nat.ofDigitChars 10 (padded n).toList 0 = n := by
  rw [toList_padded, Nat.ofDigitChars_append, Layout.zeros, Nat.ofDigitChars_replicate_zero,
    Nat.mul_zero, Nat.ofDigitChars_ten_toDigits]

end

section

variable {n : Nat}

theorem isDigit_of_mem_padded {x : Char} (h : x ∈ (padded n).toList) : x.isDigit = true := by
  rw [toList_padded] at h
  rcases List.mem_append.mp h with hzero | hdigit
  · exact Layout.isDigit_of_mem_zeros hzero
  · exact Layout.isDigit_of_mem_toDigits hdigit

theorem padded_inj {m : Nat} (h : padded m = padded n) : m = n := by
  calc
    m = Nat.ofDigitChars 10 (padded m).toList 0 := (ofDigitChars_padded m).symm
    _ = Nat.ofDigitChars 10 (padded n).toList 0 := by rw [h]
    _ = n := ofDigitChars_padded n

theorem padded_of_lt (h : n < 1000) :
    ∃ fill, 0 < fill ∧ (padded n).length = 4 ∧
      padded n = String.ofList (List.replicate fill '0') ++ toString n := by
  have hdigits : (Nat.toDigits 10 n).length ≤ 3 :=
    (Nat.length_toDigits_le_iff (by decide) (by decide)).mpr h
  refine ⟨4 - (Nat.toDigits 10 n).length, by omega, ?_, padded_eq n⟩
  rw [← String.length_toList, toList_padded, Layout.zeros, List.length_append,
    List.length_replicate]
  omega

theorem padded_of_le (h : 1000 ≤ n) : padded n = toString n := by
  have hdigits : ¬ (Nat.toDigits 10 n).length ≤ 3 := by
    rw [Nat.length_toDigits_le_iff (by decide) (by decide)]
    exact Nat.not_lt.mpr h
  have hfill : 4 - (Nat.toDigits 10 n).length = 0 := by omega
  rw [padded_eq, hfill]
  exact String.empty_append

end

/-! ## The end of the family -/

/-- A text has one family without digits, and one number behind it. -/
theorem text_inj {c d : Code} (hc : ∀ x ∈ c.family.toList, x.isDigit = false)
    (hd : ∀ x ∈ d.family.toList, x.isDigit = false) (h : c.text = d.text) : c = d := by
  have hstop (n : Nat) : ∀ x, (padded n).toList.head? = some x → (!x.isDigit) = false := by
    intro x hx
    rw [isDigit_of_mem_padded (List.mem_of_head? hx)]
    rfl
  have hcut : c.family.toList ++ (padded c.number.toNat).toList =
      d.family.toList ++ (padded d.number.toNat).toList := by
    rw [← String.toList_append, ← String.toList_append]
    exact congrArg String.toList h
  obtain ⟨hfamily, hnumber⟩ := append_inj_of_stop (p := fun x => !x.isDigit)
    (by simpa using hc) (hstop _) (by simpa using hd) (hstop _) hcut
  have hvalue : c.number.toNat = d.number.toNat := padded_inj (String.toList_inj.mp hnumber)
  cases c
  cases d
  exact congrArg₂ Code.mk (String.toList_inj.mp hfamily) (UInt32.toNat_inj.mp hvalue)

end Code

/-- Codes whose families have no digits have one text only if they are one code. In the text a
number of less than four digits has zeros in front of it up to the fourth, and any other has
none. -/
theorem code_told_by_text (c d : Code) (hc : ∀ x ∈ c.family.toList, x.isDigit = false)
    (hd : ∀ x ∈ d.family.toList, x.isDigit = false) :
    (c.text = d.text ↔ c = d) ∧
    (c.number.toNat < 1000 →
      ∃ fill, 0 < fill ∧ c.text.length = c.family.length + 4 ∧
        c.text = c.family ++ (String.ofList (List.replicate fill '0') ++ toString c.number.toNat)) ∧
    (1000 ≤ c.number.toNat → c.text = c.family ++ toString c.number.toNat) := by
  refine ⟨⟨Code.text_inj hc hd, congrArg Code.text⟩, ?_, ?_⟩
  · intro hshort
    obtain ⟨fill, hfill, hlength, hpadded⟩ := Code.padded_of_lt hshort
    refine ⟨fill, hfill, ?_, ?_⟩
    · rw [Code.text, String.length_append, hlength]
    · rw [Code.text, hpadded]
  · intro hlong
    rw [Code.text, Code.padded_of_le hlong]

theorem code_told_by_text_fifth_digit :
    let short : Code := ⟨"E", 1⟩
    let long : Code := ⟨"E", 10001⟩
    short.text = "E0001" ∧ long.text = "E10001" ∧ short.text ≠ long.text ∧
    (∃ fill, 0 < fill ∧
      "E0001" = "E" ++ (String.ofList (List.replicate fill '0') ++ toString 1)) ∧
    "E10001" = "E" ++ toString 10001 := by
  intro short long
  have hshort : short.text = "E0001" := by decide +kernel
  have hlong : long.text = "E10001" := by decide +kernel
  have hfamily : ∀ x ∈ "E".toList, x.isDigit = false := by
    intro x hx
    obtain rfl : x = 'E' := by simpa using hx
    decide
  obtain ⟨htold, hfilled, -⟩ := code_told_by_text short long hfamily hfamily
  obtain ⟨-, -, hplain⟩ := code_told_by_text long short hfamily hfamily
  obtain ⟨fill, hfill, -, htext⟩ := hfilled (by decide)
  refine ⟨hshort, hlong, mt htold.mp (by decide), ⟨fill, hfill, ?_⟩, ?_⟩
  · rw [← hshort]
    exact htext
  · rw [← hlong]
    exact hplain (by decide)

example : (⟨"E", 10001⟩ : Code).text = (⟨"E1", 1⟩ : Code).text := by decide +kernel

end StatementLexer
