import Mathlib.Data.List.Forall2
import StatementLexer.Proofs.Decimal.Counting
import StatementLexer.Proofs.Lexeme.Tiling
import StatementLexer.Token.Reader

/-! # The texts that have tokens

A text that can be split and whose numerals have fewer than `2 ^ 31` digits has tokens exactly if
each of its runs is a numeral or starts with a letter; there is one token for each lexeme then, told
by its shape. Otherwise the first run that is neither is the fault, and a fault of the division into
statements comes before all of these. A numeral of `2 ^ 31` digits is a fault. Main statements:
`tokenize_language`, `tokenize_uncounted_digits`.
-/

namespace StatementLexer

namespace Lexeme

def IsRun (l : Lexeme) : Prop :=
  Shape.run.Describes l.text.toList

def IsNumeric (l : Lexeme) : Prop :=
  Numeral.HasShape l.text.toList

/-- A lexeme that is no numeral, or a numeral whose digits can be counted. -/
def IsCounted (l : Lexeme) : Prop :=
  l.IsNumeric → Numeral.isNumeral l.text.toList = true

def StartsWithLetter (l : Lexeme) : Prop :=
  ∃ c, l.text.toList.head? = some c ∧ Text.isLetter c = true

instance (l : Lexeme) : Decidable l.IsRun :=
  decidable_of_iff (l.text.toList ≠ [] ∧ l.text.toList.all isOrdinary = true)
    (by simp [IsRun, Shape.Describes])

instance (l : Lexeme) : Decidable l.IsNumeric :=
  inferInstanceAs (Decidable (Numeral.HasShape _))

inductive Denotes (l : Lexeme) : Token → Prop where
  | symbol (c : Char) : isSymbol c = true → l.text.toList = [c] → Denotes l (.symbol c)
  | quoted (body : List Char) : '"' ∉ body → '\n' ∉ body →
      l.text.toList = '"' :: (body ++ ['"']) → Denotes l (.string (String.ofList body))
  | number : l.IsRun → l.IsNumeric → Denotes l (.number (Numeral.value l.text.toList))
  | name : l.IsRun → l.StartsWithLetter → Denotes l (.name l.text)

end Lexeme

/-! ## The rules -/

theorem classifyBy_tokenRules (cs : List Char) :
    classifyBy tokenRules cs =
      if TokenRule.isQuoted cs then some (.string (String.ofList cs.tail.dropLast))
      else if Numeral.isNumeral cs then (Numeral.read? cs).map .number
      else if TokenRule.isSingleSymbol cs then cs.head?.bind Token.ofSymbol?
      else if TokenRule.isName cs then some (.name (String.ofList cs))
      else none := by
  unfold classifyBy tokenRules
  simp only [List.find?_cons, TokenRule.string, TokenRule.number, TokenRule.symbol, TokenRule.name]
  cases TokenRule.isQuoted cs <;> cases Numeral.isNumeral cs <;>
    cases TokenRule.isSingleSymbol cs <;> cases TokenRule.isName cs <;> rfl

theorem isName_iff (l : Lexeme) : TokenRule.isName l.text.toList = true ↔ l.StartsWithLetter := by
  unfold TokenRule.isName Lexeme.StartsWithLetter
  cases l.text.toList.head? <;> simp

instance (l : Lexeme) : Decidable l.StartsWithLetter :=
  decidable_of_iff _ (isName_iff l)

theorem not_letter_of_lt {c : Char} (h : c.toNat < 0x41) : Text.isLetter c = false := by
  have hall : ∀ r ∈ Text.letterRanges, 0x41 ≤ r.1 := by decide +kernel
  rw [Bool.eq_false_iff]
  intro hc
  obtain ⟨r, hr, hle, -⟩ := Text.inRanges_iff.mp hc
  have := hall r hr
  omega

theorem not_mark_of_letter {c : Char} (h : Text.isLetter c = true) :
    ¬ (c.isDigit = true ∨ c = '.') := by
  intro hmark
  have hlt : c.toNat < 0x41 := by
    rcases hmark with hdigit | rfl
    · exact Nat.lt_of_le_of_lt (Char.isDigit_iff_toNat.mp hdigit).2 (by decide)
    · decide
  rw [not_letter_of_lt hlt] at h
  exact Bool.false_ne_true h

theorem not_mark_of_symbol {c : Char} (h : isSymbol c = true) : ¬ (c.isDigit = true ∨ c = '.') := by
  have hall : symbols.all (fun d => !(d.isDigit || d == '.')) = true := by decide
  simpa using List.all_eq_true.mp hall c (by simpa [isSymbol] using h)

theorem isNumeral_of_head {cs : List Char} {c : Char} (hhead : cs.head? = some c)
    (hc : ¬ (c.isDigit = true ∨ c = '.')) : Numeral.isNumeral cs = false := by
  rw [Bool.eq_false_iff]
  intro h
  exact hc ((Numeral.isNumeral_eq_true_iff.mp h).1 c (List.mem_of_head? hhead))

theorem Lexeme.isCounted_of_head {l : Lexeme} {c : Char} (hhead : l.text.toList.head? = some c)
    (hc : ¬ (c.isDigit = true ∨ c = '.')) : l.IsCounted :=
  fun hnumeric => absurd (hnumeric.1 c (List.mem_of_head? hhead)) hc

/-- Only the digits of a number are counted. -/
theorem Lexeme.Denotes.isCounted {l : Lexeme} {t : Token} (h : l.Denotes t)
    (ht : t.kind ≠ .number) : l.IsCounted := by
  cases h with
  | symbol c hc htext => exact isCounted_of_head (by rw [htext]; rfl) (not_mark_of_symbol hc)
  | quoted body _ _ htext => exact isCounted_of_head (by rw [htext]; rfl) (by decide)
  | number => exact absurd rfl ht
  | name _ hletter =>
      obtain ⟨c, hhead, hc⟩ := hletter
      exact isCounted_of_head hhead (not_mark_of_letter hc)

theorem Lexeme.isCounted_of_digits {l : Lexeme}
    (h : l.IsNumeric → l.text.toList.countP Char.isDigit < 2 ^ 31) : l.IsCounted :=
  fun hnumeric => hnumeric.isNumeral (h hnumeric)

/-! ## The token of a shape -/

theorem isQuoted_of_head_ne {cs : List Char} {c : Char} (hhead : cs.head? = some c) (hc : c ≠ '"') :
    TokenRule.isQuoted cs = false := by
  simp [TokenRule.isQuoted, hhead, hc]

theorem classify_of_some {l : Lexeme} {t : Token}
    (h : classifyBy tokenRules l.text.toList = some t) : l.classify = .ok t := by
  rw [Lexeme.classify, h]

theorem classify_of_none {l : Lexeme} (h : classifyBy tokenRules l.text.toList = none) :
    l.classify = .error (.invalidToken l.text l.span) := by
  rw [Lexeme.classify, h]

theorem classify_symbol {l : Lexeme} {c : Char} (hc : isSymbol c = true)
    (htext : l.text.toList = [c]) : l.classify = .ok (.symbol c) := by
  have hquoted : TokenRule.isQuoted [c] = false :=
    isQuoted_of_head_ne rfl (ne_quote_of_symbol hc)
  have hnumeral : Numeral.isNumeral [c] = false := isNumeral_of_head rfl (not_mark_of_symbol hc)
  apply classify_of_some
  rw [htext, classifyBy_tokenRules, hquoted, hnumeral]
  simp [TokenRule.isSingleSymbol, hc, Token.ofSymbol?]

theorem classify_quoted {l : Lexeme} {body : List Char}
    (htext : l.text.toList = '"' :: (body ++ ['"'])) :
    l.classify = .ok (.string (String.ofList body)) := by
  have hlen : 2 ≤ Text.byteLength ('"' :: (body ++ ['"'])) := by
    have hsize : Text.byteLength ['"'] = 1 := rfl
    have hquote : ('"' : Char).utf8Size = 1 := rfl
    rw [Text.byteLength_cons, Text.byteLength_append]
    omega
  have hlast : ('"' :: (body ++ ['"'])).getLast? = some '"' := by
    rw [← List.cons_append, List.getLast?_append]
    rfl
  have hquoted : TokenRule.isQuoted ('"' :: (body ++ ['"'])) = true := by
    simp only [TokenRule.isQuoted, hlen, hlast, List.head?_cons, decide_true, beq_self_eq_true,
      Bool.and_self]
  apply classify_of_some
  rw [htext, classifyBy_tokenRules, if_pos hquoted]
  simp

theorem classifyBy_run {l : Lexeme} (hl : l.IsRun) :
    classifyBy tokenRules l.text.toList =
      if Numeral.isNumeral l.text.toList then (Numeral.read? l.text.toList).map .number
      else if TokenRule.isName l.text.toList then some (.name l.text)
      else none := by
  rcases hl with ⟨hne, hall⟩
  have hquoted : TokenRule.isQuoted l.text.toList = false := by
    obtain ⟨c, rest, htext⟩ := List.exists_cons_of_ne_nil hne
    obtain ⟨hc, -, -⟩ := isOrdinary_iff.mp (hall c (by simp [htext]))
    exact isQuoted_of_head_ne (by rw [htext]; rfl) hc
  have hsymbol : TokenRule.isSingleSymbol l.text.toList = false := by
    unfold TokenRule.isSingleSymbol
    split
    next c htext => exact (isOrdinary_iff.mp (hall c (by simp [htext]))).2.2
    next => rfl
  rw [classifyBy_tokenRules, hquoted, hsymbol, String.ofList_toList]
  rfl

theorem classify_number {l : Lexeme} (hl : l.IsRun) (hnumeric : l.IsNumeric)
    (hcounted : Numeral.isNumeral l.text.toList = true) :
    l.classify = .ok (.number (Numeral.value l.text.toList)) := by
  apply classify_of_some
  rw [classifyBy_run hl, if_pos hcounted, Numeral.read?_of_hasShape hnumeric]
  rfl

theorem classify_name {l : Lexeme} (hl : l.IsRun) (hletter : l.StartsWithLetter) :
    l.classify = .ok (.name l.text) := by
  obtain ⟨c, hhead, hc⟩ := hletter
  have hnumeral := isNumeral_of_head hhead (not_mark_of_letter hc)
  apply classify_of_some
  rw [classifyBy_run hl, hnumeral, if_neg Bool.false_ne_true,
    if_pos ((isName_iff l).mpr ⟨c, hhead, hc⟩)]

theorem classify_of_bad_run {l : Lexeme} (hl : l.IsRun)
    (hnumeric : ¬ (l.IsNumeric ∧ Numeral.isNumeral l.text.toList = true))
    (hletter : ¬ l.StartsWithLetter) : l.classify = .error (.invalidToken l.text l.span) := by
  apply classify_of_none
  rw [classifyBy_run hl]
  split
  next hcounted =>
      have hread := Numeral.read?_eq_none_iff.mpr fun hshape => hnumeric ⟨hshape, hcounted⟩
      rw [hread]
      rfl
  next => rw [if_neg fun h => hletter ((isName_iff l).mp h)]

/-- On a lexeme with a shape, classification succeeds with the token that the shape tells, if its
digits can be counted. -/
theorem classify_eq_ok_iff {l : Lexeme} (hl : ∃ shape : Shape, shape.Describes l.text.toList)
    {t : Token} : l.classify = .ok t ↔ l.Denotes t ∧ l.IsCounted := by
  constructor
  · intro h
    rcases hl with ⟨shape, hshape⟩
    cases shape with
    | symbol =>
        rcases hshape with ⟨c, hc, htext⟩
        rw [classify_symbol hc htext] at h
        cases h
        have hdenotes := Lexeme.Denotes.symbol c hc htext
        exact ⟨hdenotes, hdenotes.isCounted (by simp [Token.kind])⟩
    | quoted =>
        rcases hshape with ⟨body, hbody, hbreak, htext⟩
        rw [classify_quoted htext] at h
        cases h
        have hdenotes := Lexeme.Denotes.quoted body hbody hbreak htext
        exact ⟨hdenotes, hdenotes.isCounted (by simp [Token.kind])⟩
    | run =>
        by_cases hnumeric : l.IsNumeric ∧ Numeral.isNumeral l.text.toList = true
        · rw [classify_number hshape hnumeric.1 hnumeric.2] at h
          cases h
          exact ⟨.number hshape hnumeric.1, fun _ => hnumeric.2⟩
        · by_cases hletter : l.StartsWithLetter
          · rw [classify_name hshape hletter] at h
            cases h
            have hdenotes := Lexeme.Denotes.name hshape hletter
            exact ⟨hdenotes, hdenotes.isCounted (by simp [Token.kind])⟩
          · rw [classify_of_bad_run hshape hnumeric hletter] at h
            cases h
  · rintro ⟨hdenotes, hcounted⟩
    cases hdenotes with
    | symbol c hc htext => exact classify_symbol hc htext
    | quoted body _ _ htext => exact classify_quoted htext
    | number hrun hnumeric => exact classify_number hrun hnumeric (hcounted hnumeric)
    | name hrun hletter => exact classify_name hrun hletter

/-- Only runs can be faults. -/
theorem isRun_of_classify_error {l : Lexeme} (hl : ∃ shape : Shape, shape.Describes l.text.toList)
    {e : LexError} (h : l.classify = .error e) :
    l.IsRun ∧ e = .invalidToken l.text l.span := by
  have he : e = .invalidToken l.text l.span := by
    unfold Lexeme.classify at h
    split at h
    next => cases h
    next => exact (Except.error.inj h).symm
  rcases hl with ⟨shape, hshape⟩
  cases shape with
  | symbol =>
      rcases hshape with ⟨c, hc, htext⟩
      rw [classify_symbol hc htext] at h
      cases h
  | quoted =>
      rcases hshape with ⟨body, -, -, htext⟩
      rw [classify_quoted htext] at h
      cases h
  | run => exact ⟨hshape, he⟩

/-! ## All lexemes in order -/

namespace Reader

theorem collectFrom_ok_iff {ls : List Lexeme} {ts : List Token} :
    (collectFrom ls).1 = .ok ts ↔ List.Forall₂ (fun l t => l.classify = .ok t) ls ts := by
  induction ls generalizing ts with
  | nil =>
      show Except.ok [] = Except.ok ts ↔ _
      cases ts <;> simp
  | cons l ls ih =>
      cases hl : l.classify with
      | error e =>
          rw [collectFrom_cons_error hl]
          cases ts <;> simp [hl]
      | ok t =>
          rw [collectFrom_cons_ok hl]
          cases hls : (collectFrom ls).1 with
          | error e => cases ts <;> simp [hl, hls, ← ih, Except.map]
          | ok us => cases ts <;> simp [hl, hls, ← ih, Except.map]

theorem collectFrom_error {before after : List Lexeme} {l : Lexeme} {e : LexError}
    (hbefore : ∀ k ∈ before, ∃ t, k.classify = .ok t) (hl : l.classify = .error e) :
    (collectFrom (before ++ l :: after)).1 = .error e := by
  induction before with
  | nil => rw [List.nil_append, collectFrom_cons_error hl]
  | cons k before ih =>
      obtain ⟨t, hk⟩ := hbefore k List.mem_cons_self
      have hrest := ih fun m hm => hbefore m (List.mem_cons_of_mem k hm)
      rw [List.cons_append, collectFrom_cons_ok hk, hrest]
      rfl

theorem exists_error_of_collectFrom {ls : List Lexeme} {e : LexError}
    (h : (collectFrom ls).1 = .error e) : ∃ l ∈ ls, l.classify = .error e := by
  induction ls with
  | nil => cases h
  | cons l ls ih =>
      cases hl : l.classify with
      | error e' =>
          rw [collectFrom_cons_error hl] at h
          obtain rfl : e' = e := Except.error.inj h
          exact ⟨l, List.mem_cons_self, hl⟩
      | ok t =>
          rw [collectFrom_cons_ok hl] at h
          have hrest : (collectFrom ls).1 = .error e := by
            cases hls : (collectFrom ls).1 with
            | error e' => simpa [hls, Except.map] using h
            | ok ts => simp [hls, Except.map] at h
          obtain ⟨k, hk, hfault⟩ := ih hrest
          exact ⟨k, List.mem_cons_of_mem l hk, hfault⟩

end Reader

theorem ofSource_of_split {source : String} {ls : List Lexeme} (h : split source = .ok ls) :
    Reader.ofSource source = .ok ⟨source, ls, 0⟩ := by
  simp [Reader.ofSource, h, Except.map]

theorem ofSource_spec {source : String} {r : Reader} (h : Reader.ofSource source = .ok r) :
    split source = .ok r.unread := by
  cases hs : split source with
  | error e => simp [Reader.ofSource, hs, Except.map] at h
  | ok ls =>
      rw [ofSource_of_split hs] at h
      cases h
      rfl

theorem eq_of_ofSource {source : String} {r : Reader} (h : Reader.ofSource source = .ok r) :
    r = ⟨source, r.unread, 0⟩ :=
  Except.ok.inj (h.symm.trans (ofSource_of_split (ofSource_spec h)))

theorem exists_denoted {l : Lexeme} (hl : ∃ shape : Shape, shape.Describes l.text.toList)
    (hrun : l.IsRun → l.IsNumeric ∨ l.StartsWithLetter) : ∃ t, l.Denotes t := by
  rcases hl with ⟨shape, hshape⟩
  cases shape with
  | symbol =>
      rcases hshape with ⟨c, hc, htext⟩
      exact ⟨_, .symbol c hc htext⟩
  | quoted =>
      rcases hshape with ⟨body, hbody, hbreak, htext⟩
      exact ⟨_, .quoted body hbody hbreak htext⟩
  | run =>
      rcases hrun hshape with hnumeric | hletter
      · exact ⟨_, .number hshape hnumeric⟩
      · exact ⟨_, .name hshape hletter⟩

theorem exists_forall₂_denoted {ls : List Lexeme} (h : ∀ l ∈ ls, ∃ t, l.Denotes t) :
    ∃ ts, List.Forall₂ Lexeme.Denotes ls ts := by
  induction ls with
  | nil => exact ⟨[], .nil⟩
  | cons l ls ih =>
      obtain ⟨t, ht⟩ := h l List.mem_cons_self
      obtain ⟨ts, hts⟩ := ih fun k hk => h k (List.mem_cons_of_mem l hk)
      exact ⟨t :: ts, .cons ht hts⟩

section

variable {source : String} {r : Reader} (h : Reader.ofSource source = .ok r)

include h

theorem exists_shape_of_mem {l : Lexeme} (hl : l ∈ r.unread) :
    ∃ shape : Shape, shape.Describes l.text.toList :=
  ((splitChars_tiles (ofSource_spec h)).exists_of_mem hl).1

theorem tokenize_eq_collectFrom : tokenize source = (Reader.collectFrom r.unread).1 := by
  simp [tokenize, h, Except.bind, Reader.collect]

theorem tokenize_ok_iff {ts : List Token} :
    tokenize source = .ok ts ↔
      List.Forall₂ Lexeme.Denotes r.unread ts ∧ ∀ l ∈ r.unread, l.IsCounted := by
  have hshape : ∀ l ∈ r.unread, ∃ shape : Shape, shape.Describes l.text.toList :=
    fun l hl => exists_shape_of_mem h hl
  rw [tokenize_eq_collectFrom h, Reader.collectFrom_ok_iff, and_comm, ← List.forall₂_and_left]
  constructor
  · intro hts
    refine ((List.forall₂_and_left _ _).mpr ⟨hshape, hts⟩).imp ?_
    rintro l t ⟨hl, ht⟩
    exact ((classify_eq_ok_iff hl).mp ht).symm
  · intro hts
    refine ((List.forall₂_and_left _ _).mpr ⟨hshape, hts⟩).imp ?_
    rintro l t ⟨hl, ht⟩
    exact (classify_eq_ok_iff hl).mpr ht.symm

theorem tokenize_error_of_run {before after : List Lexeme} {l : Lexeme}
    (heq : r.unread = before ++ l :: after) (hl : l.IsRun)
    (hbad : ¬ (l.IsNumeric ∨ l.StartsWithLetter))
    (hbefore : ∀ k ∈ before, k.IsRun → k.IsNumeric ∨ k.StartsWithLetter)
    (hcounted : ∀ k ∈ r.unread, k.IsCounted) :
    tokenize source = .error (.invalidToken l.text l.span) := by
  rw [not_or] at hbad
  have hok : ∀ k ∈ before, ∃ t, k.classify = .ok t := by
    intro k hk
    have hmem : k ∈ r.unread := heq ▸ List.mem_append_left _ hk
    have hshape := exists_shape_of_mem h hmem
    obtain ⟨t, ht⟩ := exists_denoted hshape (hbefore k hk)
    exact ⟨t, (classify_eq_ok_iff hshape).mpr ⟨ht, hcounted k hmem⟩⟩
  have hfault := classify_of_bad_run hl (fun hnumeric => hbad.1 hnumeric.1) hbad.2
  rw [tokenize_eq_collectFrom h, heq, Reader.collectFrom_error hok hfault]

theorem exists_tokenize_iff (hcounted : ∀ l ∈ r.unread, l.IsCounted) :
    (∃ ts, tokenize source = .ok ts) ↔
      ∀ l ∈ r.unread, l.IsRun → l.IsNumeric ∨ l.StartsWithLetter := by
  constructor
  · rintro ⟨ts, hts⟩
    rcases forall_or_exists_first
      (fun l : Lexeme => l.IsRun → l.IsNumeric ∨ l.StartsWithLetter) r.unread with
      hall | ⟨before, l, after, heq, hl, hbefore⟩
    · exact hall
    · rw [Classical.not_imp] at hl
      rw [tokenize_error_of_run h heq hl.1 hl.2 hbefore hcounted] at hts
      cases hts
  · intro hall
    obtain ⟨ts, hts⟩ := exists_forall₂_denoted fun l hl =>
      exists_denoted (exists_shape_of_mem h hl) (hall l hl)
    exact ⟨ts, (tokenize_ok_iff h).mpr ⟨hts, hcounted⟩⟩

end

theorem tokenize_iff_forall₂ {source : String} {ls : List Lexeme} (h : split source = .ok ls)
    {ts : List Token} :
    tokenize source = .ok ts ↔ List.Forall₂ Lexeme.Denotes ls ts ∧ ∀ l ∈ ls, l.IsCounted :=
  tokenize_ok_iff (ofSource_of_split h)

theorem exists_split_of_tokenize {source : String} {ts : List Token}
    (h : tokenize source = .ok ts) : ∃ ls, split source = .ok ls := by
  cases hsplit : split source with
  | error e => simp [tokenize, Reader.ofSource, hsplit, Except.map, Except.bind] at h
  | ok ls => exact ⟨ls, rfl⟩

/-! ## A run by itself -/

theorem not_separator_of_visible {c : Char} (hlow : 0x21 ≤ c.toNat) (hhigh : c.toNat ≤ 0x7E) :
    Text.isSeparator c = false := by
  have hinformation : ∀ r ∈ Text.informationSeparators, r.2 < 0x21 := by decide
  have hblank : ∀ r ∈ Text.blankRanges, r.2 < 0x21 ∨ 0x7E < r.1 := by decide
  rw [Bool.eq_false_iff]
  intro hsep
  rcases Bool.or_eq_true_iff.mp hsep with h | h
  · obtain ⟨r, hr, -, hle⟩ := Text.inRanges_iff.mp h
    have := hinformation r hr
    omega
  · obtain ⟨r, hr, hge, hle⟩ := Text.inRanges_iff.mp (Bool.and_eq_true_iff.mp h).1
    have := hblank r hr
    omega

theorem isOrdinary_of_isDigit {c : Char} (h : c.isDigit = true) : isOrdinary c = true := by
  obtain ⟨hlow, hhigh⟩ := Char.isDigit_iff_toNat.mp h
  have hsymbols : symbols.all (fun d => !d.isDigit) = true := by decide
  refine isOrdinary_iff.mpr ⟨?_, not_separator_of_visible ?_ ?_, ?_⟩
  · rintro rfl
    exact absurd h (by decide)
  · exact Nat.le_trans (by decide) hlow
  · exact Nat.le_trans hhigh (by decide)
  · rw [Bool.eq_false_iff]
    intro hsymbol
    have hmem : c ∈ symbols := by simpa [isSymbol] using hsymbol
    have hdigit : c.isDigit = false := by simpa using List.all_eq_true.mp hsymbols c hmem
    rw [hdigit] at h
    exact Bool.false_ne_true h

theorem Numeral.HasShape.isRun {cs : List Char} (h : HasShape cs) : Shape.run.Describes cs := by
  obtain ⟨hall, ⟨c, hc, -⟩, -⟩ := h
  refine ⟨List.ne_nil_of_mem hc, fun d hd => ?_⟩
  rcases hall d hd with hdigit | rfl
  · exact isOrdinary_of_isDigit hdigit
  · decide

theorem Splitting.foldl_read_run {s : Splitting} {start : Mark} {taken cs : List Char}
    (hm : s.mode = .run start taken) (hcs : ∀ c ∈ cs, isOrdinary c = true) :
    cs.foldl read s = ⟨s.here.behind cs, .run start (cs.reverse ++ taken), s.found⟩ := by
  induction cs generalizing s taken with
  | nil =>
      obtain ⟨here, mode, found⟩ := s
      obtain rfl : mode = .run start taken := hm
      rfl
  | cons c cs ih =>
      obtain ⟨hc, hrest⟩ := List.forall_mem_cons.mp hcs
      rw [List.foldl_cons, read_of_opening_none (by rw [hm]; rfl), stepPlain_ordinary_run hm hc,
        ih rfl hrest, List.reverse_cons, List.append_assoc]
      rfl

theorem Splitting.foldl_read_initial {cs : List Char} (h : Shape.run.Describes cs) :
    cs.foldl read initial = ⟨Mark.origin.behind cs, .run Mark.origin cs.reverse, []⟩ := by
  obtain ⟨c, rest, rfl⟩ := List.exists_cons_of_ne_nil h.1
  obtain ⟨hc, hrest⟩ := List.forall_mem_cons.mp h.2
  rw [List.foldl_cons, read_of_opening_none rfl, stepPlain_ordinary_between rfl hc,
    foldl_read_run rfl hrest, List.reverse_cons]
  rfl

theorem split_run {cs : List Char} (h : Shape.run.Describes cs) :
    split (String.ofList (cs ++ [terminator])) =
      .ok [⟨String.ofList cs, ⟨0, Text.byteLength cs, 1, 1⟩⟩,
        ⟨String.singleton terminator, (Mark.origin.behind cs).spanOf terminator⟩] := by
  have hfold := Splitting.foldl_read_initial h
  have hscan : Splitting.initial.scan (cs ++ [terminator]) =
      .ok ((cs.foldl Splitting.read Splitting.initial).read terminator) := by
    rw [Splitting.scan_inner _ h.line.1 (by decide),
      Splitting.scan_cons_of_ok (Splitting.step_last_closed rfl (by rw [hfold]; rfl))]
    rfl
  rw [split, String.toList_ofList, splitChars_eq_map, hscan, hfold,
    Splitting.read_of_opening_none rfl, Splitting.stepPlain_symbol _ isSymbol_terminator]
  simp [Except.map, Splitting.flush, Splitting.emit, Splitting.advance, Mark.spanTo, Mark.origin]

/-- A numeral whose digits cannot be counted is the fault of its statement. -/
theorem tokenize_uncounted {cs : List Char} (h : Numeral.HasShape cs)
    (hcount : Numeral.isNumeral cs = false) :
    tokenize (String.ofList (cs ++ [terminator])) =
      .error (.invalidToken (String.ofList cs) ⟨0, Text.byteLength cs, 1, 1⟩) := by
  let l : Lexeme := ⟨String.ofList cs, ⟨0, Text.byteLength cs, 1, 1⟩⟩
  have htext : l.text.toList = cs := String.toList_ofList
  have hrun : l.IsRun := by
    rw [Lexeme.IsRun, htext]
    exact h.isRun
  have hnumeral : Numeral.isNumeral l.text.toList = false := by rw [htext, hcount]
  have hletter : ¬ l.StartsWithLetter := by
    rintro ⟨c, hhead, hc⟩
    rw [htext] at hhead
    exact not_mark_of_letter hc (h.1 c (List.mem_of_head? hhead))
  have hfault := classify_of_bad_run hrun (fun hn => Bool.false_ne_true (hnumeral ▸ hn.2)) hletter
  have hbefore : ∀ k ∈ ([] : List Lexeme), ∃ t, k.classify = .ok t := by simp
  rw [tokenize_eq_collectFrom (ofSource_of_split (split_run h.isRun))]
  exact Reader.collectFrom_error hbefore hfault

/-- A fault of the division into statements is the fault of the text. Without one, and with fewer
than `2 ^ 31` digits in each numeral, the text has tokens exactly if each run is a numeral or starts
with a letter; they are the tokens that the lexemes denote, one for each. If some run is neither,
the first such run is the fault. -/
theorem tokenize_language (source : String) :
    (∀ e, Reader.ofSource source = .error e → tokenize source = .error e) ∧
    ∀ r, Reader.ofSource source = .ok r →
      (∀ l ∈ r.unread, l.IsNumeric → l.text.toList.countP Char.isDigit < 2 ^ 31) →
      ((∃ ts, tokenize source = .ok ts) ↔
        ∀ l ∈ r.unread, l.IsRun → l.IsNumeric ∨ l.StartsWithLetter) ∧
      (∀ ts, tokenize source = .ok ts ↔ List.Forall₂ Lexeme.Denotes r.unread ts) ∧
      ∀ before l after, r.unread = before ++ l :: after → l.IsRun →
        ¬ (l.IsNumeric ∨ l.StartsWithLetter) →
        (∀ k ∈ before, k.IsRun → k.IsNumeric ∨ k.StartsWithLetter) →
        tokenize source = .error (.invalidToken l.text l.span) := by
  constructor
  · intro e he
    simp [tokenize, he, Except.bind]
  · intro r hr hdigits
    have hcounted : ∀ l ∈ r.unread, l.IsCounted := fun l hl =>
      Lexeme.isCounted_of_digits (hdigits l hl)
    refine ⟨exists_tokenize_iff hr hcounted, ?_, ?_⟩
    · intro ts
      rw [tokenize_ok_iff hr]
      exact and_iff_left hcounted
    · intro before l after heq hl hbad hbefore
      exact tokenize_error_of_run hr heq hl hbad hbefore hcounted

theorem tokenize_language_first_of_two :
    tokenize "é+5.0.1\n_y;" = .error (.missingTerminator ⟨7, 8, 1, 7⟩) ∧
    tokenize "é+5.0.1;\n_y;" = .error (.invalidToken "5.0.1" ⟨3, 8, 1, 3⟩) := by
  let lexemes : List Lexeme := [⟨"é", ⟨0, 2, 1, 1⟩⟩, ⟨"+", ⟨2, 3, 1, 2⟩⟩,
    ⟨"5.0.1", ⟨3, 8, 1, 3⟩⟩, ⟨";", ⟨8, 9, 1, 8⟩⟩, ⟨"_y", ⟨10, 12, 2, 1⟩⟩, ⟨";", ⟨12, 13, 2, 3⟩⟩]
  have hsource : Reader.ofSource "é+5.0.1;\n_y;" = .ok ⟨"é+5.0.1;\n_y;", lexemes, 0⟩ := by rfl
  have hdigits : ∀ l ∈ lexemes, l.IsNumeric → l.text.toList.countP Char.isDigit < 2 ^ 31 := by
    decide +kernel
  obtain ⟨-, -, hfault⟩ := (tokenize_language "é+5.0.1;\n_y;").2 _ hsource hdigits
  exact ⟨(tokenize_language "é+5.0.1\n_y;").1 _ rfl,
    hfault (lexemes.take 2) ⟨"5.0.1", ⟨3, 8, 1, 3⟩⟩ (lexemes.drop 3) rfl (by decide)
      (by decide +kernel) (by decide +kernel)⟩

/-- A numeral of `2 ^ 31` digits is a run of digits, and yet the fault of its text. -/
theorem tokenize_uncounted_digits :
    let digits := List.replicate (2 ^ 31) '1'
    let source := String.ofList (digits ++ [';'])
    (∃ r, Reader.ofSource source = .ok r ∧
      ∀ l ∈ r.unread, l.IsRun → l.IsNumeric ∨ l.StartsWithLetter) ∧
    tokenize source = .error (.invalidToken (String.ofList digits) ⟨0, 2 ^ 31, 1, 1⟩) := by
  intro digits source
  have hdigits : ∀ c ∈ digits, c.isDigit = true := by
    intro c hc
    obtain rfl : c = '1' := List.eq_of_mem_replicate hc
    decide
  have hlength : digits.length = 2 ^ 31 := List.length_replicate
  have hne : digits ≠ [] := by
    rw [← List.length_pos_iff, hlength]
    decide
  have hshape := Numeral.hasShape_of_digits hdigits hne
  have huncounted : Numeral.isNumeral digits = false := by
    rw [Bool.eq_false_iff, ne_eq, Numeral.isNumeral_of_digits_iff hdigits, hlength]
    decide
  have hfault := tokenize_uncounted hshape huncounted
  have hbytes : Text.byteLength digits = 2 ^ 31 := Text.byteLength_replicate (2 ^ 31) '1'
  rw [hbytes] at hfault
  refine ⟨⟨_, ofSource_of_split (split_run hshape.isRun), ?_⟩, hfault⟩
  intro l hl hrun
  rcases List.mem_pair.mp hl with rfl | rfl
  · left
    rw [Lexeme.IsNumeric, String.toList_ofList]
    exact hshape
  · exact absurd (hrun.2 terminator (by simp)) (by decide)

end StatementLexer
