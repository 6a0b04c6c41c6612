import StatementLexer.Proofs.Token.Language

/-! # The rules exclude each other

The first character of a text announces the kind of token that the text can be, and no rule accepts
a text that announces another kind. So at most one rule accepts a text, and the order in which the
rules are tried does not matter. With fewer than `2 ^ 31` points a rule that accepts a text makes a
token of it; with `2 ^ 31` points the rule for numbers can accept a text that is none. Main
statements: `classify_any_order`, `classify_uncounted_points`.
-/

namespace StatementLexer

namespace TokenKind

def rule : TokenKind → TokenRule
  | name => .name
  | number => .number
  | string => .string
  | symbol => .symbol

/-- The kind that the first character of a text announces. -/
def announced (c : Char) : TokenKind :=
  if c = '"' then .string
  else if c.isDigit || c == '.' then .number
  else if isSymbol c then .symbol
  else .name

theorem tokenRules_eq_map : tokenRules = [string, number, symbol, name].map rule := rfl

/-! ## First characters -/

theorem announced_of_digit_or_point {c : Char} (h : c.isDigit = true ∨ c = '.') :
    announced c = .number := by
  have hquote : c ≠ '"' := by
    rintro rfl
    exact absurd h (by decide)
  unfold announced
  rw [if_neg hquote, if_pos (by simpa using h)]

theorem announced_of_symbol {c : Char} (h : isSymbol c = true) : announced c = .symbol := by
  have hall : symbols.all (fun d => announced d = .symbol) = true := by decide
  simpa using List.all_eq_true.mp hall c (by simpa [isSymbol] using h)

/-- Quotes, digits, points and symbols all come before the letters. -/
theorem announced_of_letter {c : Char} (h : Text.isLetter c = true) : announced c = .name := by
  have hle : 0x41 ≤ c.toNat := by
    by_contra hlt
    rw [not_letter_of_lt (by omega)] at h
    exact Bool.false_ne_true h
  have hquote : c ≠ '"' := by
    rintro rfl
    exact absurd hle (by decide)
  have hnumeral : ¬ (c.isDigit || c == '.') = true := by
    rw [Bool.or_eq_true, beq_iff_eq]
    rintro (hdigit | rfl)
    · have hnine : '9'.toNat < 0x41 := by decide
      have := (Char.isDigit_iff_toNat.mp hdigit).2
      omega
    · exact absurd hle (by decide)
  have hsymbol : ¬ isSymbol c = true := by
    have hall : symbols.all (fun d => d.toNat < 0x41) = true := by decide
    intro hc
    have hlt := List.all_eq_true.mp hall c (by simpa [isSymbol] using hc)
    rw [decide_eq_true_eq] at hlt
    omega
  unfold announced
  rw [if_neg hquote, if_neg hnumeral, if_neg hsymbol]

/-- A rule accepts only texts that announce its kind. -/
theorem announced_of_accepts {kind : TokenKind} {cs : List Char}
    (h : kind.rule.accepts cs = true) : cs.head?.map announced = some kind := by
  cases kind with
  | string =>
      have hhead : cs.head? = some '"' := by
        simp only [rule, TokenRule.string, TokenRule.isQuoted, Bool.and_eq_true, beq_iff_eq] at h
        exact h.1.2
      rw [hhead]
      rfl
  | number =>
      obtain ⟨hmarks, hdigits, -⟩ := Numeral.isNumeral_eq_true_iff.mp h
      cases cs with
      | nil => exact absurd hdigits (by decide)
      | cons c cs => simp [announced_of_digit_or_point (hmarks c List.mem_cons_self)]
  | symbol =>
      simp only [rule, TokenRule.symbol, TokenRule.isSingleSymbol] at h
      split at h
      next c => simp [announced_of_symbol h]
      next => simp at h
  | name =>
      simp only [rule, TokenRule.name, TokenRule.isName, Option.any_eq_true] at h
      obtain ⟨c, hhead, hletter⟩ := h
      simp [hhead, announced_of_letter hletter]

/-- An accepting rule makes a token of its kind, if the points can be counted. -/
theorem exists_token_of_accepts {kind : TokenKind} {cs : List Char}
    (hpoints : cs.count '.' < 2 ^ 31) (h : kind.rule.accepts cs = true) :
    ∃ t, kind.rule.token? cs = some t ∧ t.kind = kind := by
  cases kind with
  | string => exact ⟨_, rfl, rfl⟩
  | number =>
      have hshape := Numeral.hasShape_of_isNumeral h hpoints
      refine ⟨.number (Numeral.value cs), ?_, rfl⟩
      simp [rule, TokenRule.number, Numeral.read?_of_hasShape hshape]
  | symbol =>
      simp only [rule, TokenRule.symbol, TokenRule.isSingleSymbol] at h ⊢
      split at h
      next c => exact ⟨.symbol c, by simp [Token.ofSymbol?, h], rfl⟩
      next => simp at h
  | name => exact ⟨_, rfl, rfl⟩

end TokenKind

/-! ## Lists of rules -/

/-- Of any two rules at least one refuses a text. -/
theorem tokenRules_exclusive (cs : List Char) :
    tokenRules.Pairwise fun r r' => ¬ (r.accepts cs = true ∧ r'.accepts cs = true) := by
  have hkinds : [TokenKind.string, .number, .symbol, .name].Nodup := by decide
  rw [TokenKind.tokenRules_eq_map, List.pairwise_map]
  refine hkinds.imp ?_
  rintro kind other hne ⟨haccepts, hother⟩
  have hsame := (TokenKind.announced_of_accepts haccepts).symm.trans
    (TokenKind.announced_of_accepts hother)
  exact hne (Option.some.inj hsame)

theorem classifyBy_cons (r : TokenRule) (rules : List TokenRule) (cs : List Char) :
    classifyBy (r :: rules) cs = if r.accepts cs then r.token? cs else classifyBy rules cs := by
  unfold classifyBy
  rw [List.find?_cons]
  cases r.accepts cs <;> rfl

/-- Rules that exclude each other can be tried in any order. -/
theorem classifyBy_perm {rules rules' : List TokenRule} {cs : List Char}
    (hperm : rules.Perm rules')
    (h : rules.Pairwise fun r r' => ¬ (r.accepts cs = true ∧ r'.accepts cs = true)) :
    classifyBy rules cs = classifyBy rules' cs := by
  induction hperm with
  | nil => rfl
  | cons r _ ih => rw [classifyBy_cons, classifyBy_cons, ih (List.pairwise_cons.mp h).2]
  | swap r r' rules =>
      have hnot := (List.pairwise_cons.mp h).1 r List.mem_cons_self
      simp only [classifyBy_cons]
      cases hr : r.accepts cs with
      | false => simp
      | true =>
          have hr' : r'.accepts cs = false := by
            rw [Bool.eq_false_iff]
            exact fun haccepts => hnot ⟨haccepts, hr⟩
          simp [hr']
  | trans hfirst _ ih ih' =>
      have hmiddle := (hfirst.pairwise_iff fun hnot hboth => hnot hboth.symm).mp h
      rw [ih h, ih' hmiddle]

/-- If no rule fails behind its acceptance, no token is made exactly where no rule accepts. -/
theorem classifyBy_eq_none_iff {rules : List TokenRule} {cs : List Char}
    (h : ∀ rule ∈ rules, rule.accepts cs = true → ∃ t, rule.token? cs = some t) :
    classifyBy rules cs = none ↔ ∀ rule ∈ rules, rule.accepts cs = false := by
  unfold classifyBy
  cases hfind : rules.find? fun rule => rule.accepts cs with
  | none => simpa using hfind
  | some found =>
      have hmem := List.mem_of_find?_eq_some hfind
      have haccepts : found.accepts cs = true := by
        simpa using (List.find?_eq_some_iff_append.mp hfind).1
      obtain ⟨t, ht⟩ := h found hmem haccepts
      constructor
      · intro hnone
        simp [ht] at hnone
      · intro hall
        rw [hall found hmem] at haccepts
        exact absurd haccepts Bool.false_ne_true

theorem exists_token_of_mem {rule : TokenRule} (h : rule ∈ tokenRules) {cs : List Char}
    (hpoints : cs.count '.' < 2 ^ 31) (haccepts : rule.accepts cs = true) :
    ∃ t, rule.token? cs = some t := by
  rw [TokenKind.tokenRules_eq_map, List.mem_map] at h
  obtain ⟨kind, -, rfl⟩ := h
  obtain ⟨t, ht, -⟩ := TokenKind.exists_token_of_accepts hpoints haccepts
  exact ⟨t, ht⟩

/-! ## Lexemes -/

/-- The token of a lexeme, or its fault, if the rules of a list are tried in its order. -/
def Lexeme.classifyWith (rules : List TokenRule) (l : Lexeme) : Except LexError Token :=
  match classifyBy rules l.text.toList with
  | some token => .ok token
  | none => .error (.invalidToken l.text l.span)

theorem Lexeme.classify_eq_classifyWith (l : Lexeme) : l.classify = l.classifyWith tokenRules := rfl

theorem Lexeme.classify_eq_error_iff {l : Lexeme} (hpoints : l.text.toList.count '.' < 2 ^ 31)
    (e : LexError) :
    l.classify = .error e ↔
      e = .invalidToken l.text l.span ∧
        ∀ rule ∈ tokenRules, rule.accepts l.text.toList = false := by
  rw [← classifyBy_eq_none_iff fun rule hmem => exists_token_of_mem hmem hpoints]
  unfold classify
  cases classifyBy tokenRules l.text.toList <;> simp [eq_comm]

/-- Whatever the text of a lexeme is, no two rules accept it, so the rules classify it alike in any
order. With fewer than `2 ^ 31` points in it a rule that accepts it makes a token of it, and it is a
fault, with its text and its span, exactly if no rule accepts it. -/
theorem classify_any_order (l : Lexeme) :
    (tokenRules.Pairwise fun r r' =>
      ¬ (r.accepts l.text.toList = true ∧ r'.accepts l.text.toList = true)) ∧
    (∀ rules, rules.Perm tokenRules → l.classifyWith rules = l.classify) ∧
    (l.text.toList.count '.' < 2 ^ 31 →
      (∀ rule ∈ tokenRules, rule.accepts l.text.toList = true →
        ∃ t, rule.token? l.text.toList = some t) ∧
      ∀ e, l.classify = .error e ↔
        e = .invalidToken l.text l.span ∧
          ∀ rule ∈ tokenRules, rule.accepts l.text.toList = false) := by
  have hexclusive := tokenRules_exclusive l.text.toList
  refine ⟨hexclusive, ?_, ?_⟩
  · intro rules hperm
    rw [l.classify_eq_classifyWith]
    unfold Lexeme.classifyWith
    rw [classifyBy_perm hperm.symm hexclusive]
  · intro hpoints
    exact ⟨fun rule hmem => exists_token_of_mem hmem hpoints, Lexeme.classify_eq_error_iff hpoints⟩

theorem classify_any_order_reversed :
    TokenRule.number ∈ tokenRules ∧ TokenRule.number.accepts "5.".toList = true ∧
    (∃ t, TokenRule.number.token? "5.".toList = some t) ∧
    Lexeme.classifyWith tokenRules.reverse ⟨"5.", ⟨0, 2, 1, 1⟩⟩ =
      Lexeme.classify ⟨"5.", ⟨0, 2, 1, 1⟩⟩ ∧
    Lexeme.classify ⟨"\"", ⟨0, 1, 1, 1⟩⟩ = .error (.invalidToken "\"" ⟨0, 1, 1, 1⟩) := by
  have hmem : TokenRule.number ∈ tokenRules := by simp [tokenRules]
  have haccepts : TokenRule.number.accepts "5.".toList = true := by decide
  obtain ⟨-, horder, hcounted⟩ := classify_any_order ⟨"5.", ⟨0, 2, 1, 1⟩⟩
  obtain ⟨-, -, hcounted'⟩ := classify_any_order ⟨"\"", ⟨0, 1, 1, 1⟩⟩
  refine ⟨hmem, haccepts, (hcounted (by decide)).1 _ hmem haccepts,
    horder _ tokenRules.reverse_perm, ?_⟩
  rw [(hcounted' (by decide)).2]
  decide +kernel

/-- A text that the rule for numbers accepts is a number or nothing. -/
theorem classifyBy_of_number {cs : List Char} (h : TokenRule.number.accepts cs = true) :
    classifyBy tokenRules cs = TokenRule.number.token? cs := by
  have hperm : tokenRules.Perm [.number, .string, .symbol, .name] := List.Perm.swap _ _ _
  rw [classifyBy_perm hperm (tokenRules_exclusive cs), classifyBy_cons, if_pos h]

theorem Lexeme.classify_digit_points {l : Lexeme} {n : Nat} (hcount : 2 ^ 31 ≤ n % 2 ^ 32)
    (htext : l.text.toList = '1' :: List.replicate n '.') :
    TokenRule.number.accepts l.text.toList = true ∧
    TokenRule.number.token? l.text.toList = none ∧
    l.classify = .error (.invalidToken l.text l.span) := by
  have haccepts : TokenRule.number.accepts l.text.toList = true := by
    rw [htext]
    exact (Numeral.isNumeral_digit_points_iff (by decide) n).mpr (.inr hcount)
  have hshape : ¬ Numeral.HasShape l.text.toList := by
    rintro ⟨-, -, hpoints⟩
    rw [htext, List.count_cons_of_ne (by decide), List.count_replicate_self] at hpoints
    omega
  have hnone : TokenRule.number.token? l.text.toList = none := by
    simp [TokenRule.number, Numeral.read?_eq_none_iff.mpr hshape]
  exact ⟨haccepts, hnone, classify_of_none ((classifyBy_of_number haccepts).trans hnone)⟩

/-- A digit with `2 ^ 31` points behind it is accepted by the rule for numbers, which makes no token
of it. -/
theorem classify_uncounted_points :
    let l : Lexeme := ⟨String.ofList ('1' :: List.replicate (2 ^ 31) '.'), ⟨0, 2 ^ 31 + 1, 1, 1⟩⟩
    TokenRule.number ∈ tokenRules ∧ TokenRule.number.accepts l.text.toList = true ∧
    TokenRule.number.token? l.text.toList = none ∧
    l.classify = .error (.invalidToken l.text l.span) := by
  intro l
  have hmem : TokenRule.number ∈ tokenRules := List.mem_cons_of_mem _ List.mem_cons_self
  exact ⟨hmem, Lexeme.classify_digit_points (n := 2 ^ 31) (by decide) String.toList_ofList⟩

end StatementLexer
