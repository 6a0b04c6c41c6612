import StatementLexer.Proofs.Decimal.Range
import StatementLexer.Proofs.Token.Rendering
import StatementLexer.Session.Listing

/-! # Numerals beyond the finite numbers

A numeral may have any number of digits, and a text is not rejected for the size of its numerals. A
numeral in the range of finite numbers has a number that can be shown: the record of the token holds
it, and the text of the token denotes it. Any other numeral has infinity for its number, which a
record leaves out and whose text is a name. Main statement: `tokenize_number_shown_or_lost`.
-/

namespace StatementLexer

/-! ## Numbers shown and lost -/

theorem Token.WellFormed.classify_text {t : Token} (h : t.WellFormed) (span : Span) :
    (⟨t.text, span⟩ : Lexeme).classify = .ok t := by
  have hdenotes : (⟨t.text, span⟩ : Lexeme).Denotes t := h.denotes rfl
  exact (classify_eq_ok_iff hdenotes.exists_shape).mpr ⟨hdenotes, h.isCounted rfl⟩

namespace Binary64

/-- A number that its token gives back, as a record and as text. -/
structure IsShown (x : Binary64) : Prop where
  finite : x.isFinite = true
  record : (Token.number x).record = .record [("kind", .text "Number"), ("value", .number x)]
  text : ∀ span : Span, (⟨(Token.number x).text, span⟩ : Lexeme).classify = .ok (.number x)

structure IsLost (x : Binary64) : Prop where
  infinite : x = infinity
  record : (Token.number x).record = .record [("kind", .text "Number"), ("value", .null)]
  text : ∀ span : Span, (⟨(Token.number x).text, span⟩ : Lexeme).classify = .ok (.name "inf")

theorem isShown_of_finite {x : Binary64} (hfinite : x.isFinite = true)
    (hsign : x.isNegative = false) : x.IsShown where
  finite := hfinite
  record := by simp [Token.record, Token.jsonValue, JsonValue.ofBinary64, hfinite, Token.kind,
    TokenKind.label]
  text := Token.WellFormed.classify_text (t := .number x) ⟨hfinite, hsign⟩

theorem isLost_infinity : infinity.IsLost where
  infinite := rfl
  record := rfl
  text := Token.WellFormed.classify_text (t := .name "inf") (by decide +kernel)

end Binary64

/-- A numeral tells by its value alone whether its number is shown or lost. -/
theorem Numeral.value_shown_or_lost (cs : List Char) :
    (InRange cs → (value cs).IsShown) ∧ (¬ InRange cs → (value cs).IsLost) := by
  constructor
  · intro h
    exact Binary64.isShown_of_finite ((isFinite_value_iff cs).mpr h)
      (Binary64.ofRatio_sound _ _).2
  · intro h
    rw [value_of_not_inRange h]
    exact Binary64.isLost_infinity

/-! ## A numeral by itself -/

/-- A numeral of any value is accepted, and its value is the number of the token. -/
theorem tokenize_numeral {cs : List Char} (hshape : Numeral.HasShape cs)
    (hcount : Numeral.isNumeral cs = true) :
    tokenize (String.ofList (cs ++ [terminator])) =
      .ok [.number (Numeral.value cs), .symbol terminator] := by
  let l : Lexeme := ⟨String.ofList cs, ⟨0, Text.byteLength cs, 1, 1⟩⟩
  have htext : l.text.toList = cs := String.toList_ofList
  have hnumeric : l.IsNumeric := by
    rw [Lexeme.IsNumeric, htext]
    exact hshape
  have hnumber : l.Denotes (.number (Numeral.value cs)) := by
    have hdenotes := Lexeme.Denotes.number hnumeric.isRun hnumeric
    rwa [htext] at hdenotes
  have hcounted : l.IsCounted := by
    intro _
    rw [htext]
    exact hcount
  have hend : ∀ span, Lexeme.Denotes ⟨String.singleton terminator, span⟩ (.symbol terminator) :=
    fun _ => .symbol terminator (by decide) (String.toList_singleton terminator)
  rw [tokenize_iff_forall₂ (split_run hshape.isRun)]
  refine ⟨.cons hnumber (.cons (hend _) .nil), ?_⟩
  rw [List.forall_mem_cons, List.forall_mem_singleton]
  exact ⟨hcounted, (hend _).isCounted (by simp [Token.kind])⟩

/-! ## Tokens of a text -/

/-- In a text that has tokens each number stands for a numeral. It is shown if the numeral is in the
range of finite numbers, and lost if it is not. -/
theorem tokenize_number_shown_or_lost (source : String) (ts : List Token)
    (h : tokenize source = .ok ts) :
    ∃ ls, split source = .ok ls ∧
      List.Forall₂ (fun l t => ∀ x, t = .number x →
        l.IsNumeric ∧ Numeral.isNumeral l.text.toList = true ∧
        (Numeral.InRange l.text.toList → x.IsShown) ∧
        (¬ Numeral.InRange l.text.toList → x.IsLost)) ls ts := by
  obtain ⟨ls, hsplit⟩ := exists_split_of_tokenize h
  obtain ⟨hdenotes, hcounted⟩ := (tokenize_iff_forall₂ hsplit).mp h
  refine ⟨ls, hsplit, ((List.forall₂_and_left _ _).mpr ⟨hcounted, hdenotes⟩).imp ?_⟩
  rintro l t ⟨hcounted, hdenotes⟩ x rfl
  cases hdenotes with
  | number _ hnumeric =>
      exact ⟨hnumeric, hcounted hnumeric, Numeral.value_shown_or_lost l.text.toList⟩

theorem tokenize_number_shown_or_lost_tenth :
    let x : Binary64 := ⟨0x3FB999999999999A⟩
    tokenize "0.1;" = .ok [.number x, .symbol ';'] ∧ x.IsShown := by
  intro x
  have htokens : tokenize "0.1;" = .ok [.number x, .symbol ';'] := by decide +kernel
  obtain ⟨ls, hsplit, hall⟩ := tokenize_number_shown_or_lost "0.1;" _ htokens
  obtain rfl : [⟨"0.1", ⟨0, 3, 1, 1⟩⟩, ⟨";", ⟨3, 4, 1, 4⟩⟩] = ls := Except.ok.inj hsplit
  cases hall with
  | cons hfirst _ =>
      obtain ⟨-, -, hshown, -⟩ := hfirst x rfl
      exact ⟨htokens, hshown (by decide +kernel)⟩

/-- A numeral of three hundred and nine nines is accepted, and its number is lost. -/
theorem tokenize_nines_lost :
    tokenize (String.ofList (List.replicate 309 '9' ++ [';'])) =
      .ok [.number .infinity, .symbol ';'] ∧
    Binary64.infinity.isFinite = false ∧
    (Token.number .infinity).record = .record [("kind", .text "Number"), ("value", .null)] ∧
    ∀ span : Span, (⟨(Token.number .infinity).text, span⟩ : Lexeme).classify =
      .ok (.name "inf") := by
  have hshape : Numeral.HasShape (List.replicate 309 '9') := by decide +kernel
  have hlost : ¬ Numeral.InRange (List.replicate 309 '9') := by decide +kernel
  have htokens := tokenize_numeral hshape (hshape.isNumeral (by decide +kernel))
  rw [Numeral.value_of_not_inRange hlost] at htokens
  exact ⟨htokens, rfl, Binary64.isLost_infinity.record, Binary64.isLost_infinity.text⟩

end StatementLexer
