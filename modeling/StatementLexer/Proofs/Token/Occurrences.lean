import StatementLexer.Proofs.Token.Opacity

/-! # Symbols and strings are neither lost nor made up

A place of a text is outside of strings if the double quotes before it pair up. The pieces of which
a text consists, its lexemes and the gaps between them as well as its lines, have quotes that pair up
each by itself, so the places outside of strings can be counted piece by piece. Counted over lexemes
they are the symbols among the tokens; counted over lines they tell how many terminators there are.
Main statement: `tokenize_counts_occurrences`.
-/

namespace StatementLexer

/-! ## Places outside of strings -/

namespace Text

/-- The places of a character with an even number of double quotes before them. -/
def placesOutside (c : Char) (cs : List Char) : List Nat :=
  (List.range cs.length).filter fun i => cs[i]? == some c && (cs.take i).count '"' % 2 == 0

theorem mem_placesOutside_iff {c : Char} {cs : List Char} {i : Nat} :
    i ∈ placesOutside c cs ↔ cs[i]? = some c ∧ (cs.take i).count '"' % 2 = 0 := by
  simp only [placesOutside, List.mem_filter, List.mem_range, Bool.and_eq_true, beq_iff_eq]
  constructor
  · exact And.right
  · intro h
    obtain ⟨hlt, -⟩ := List.getElem?_eq_some_iff.mp h.1
    exact ⟨hlt, h⟩

theorem lt_length_of_mem_placesOutside {c : Char} {cs : List Char} {i : Nat}
    (h : i ∈ placesOutside c cs) : i < cs.length :=
  List.mem_range.mp (List.mem_filter.mp h).1

/-- Behind a text whose quotes pair up the places are counted afresh. -/
theorem placesOutside_append {xs : List Char} (h : xs.count '"' % 2 = 0) (c : Char)
    (ys : List Char) :
    placesOutside c (xs ++ ys) =
      placesOutside c xs ++ (placesOutside c ys).map (xs.length + ·) := by
  unfold placesOutside
  rw [List.length_append, List.range_add, List.filter_append, List.filter_map]
  congr 1
  · apply List.filter_congr
    intro i hi
    have hlt : i < xs.length := List.mem_range.mp hi
    rw [List.getElem?_append_left hlt, List.take_append_of_le_length (by omega)]
  · congr 1
    apply List.filter_congr
    intro i _
    have hplace : (xs ++ ys)[xs.length + i]? = ys[i]? := by
      rw [List.getElem?_append_right (by omega), Nat.add_sub_cancel_left]
    have hcount : ((xs ++ ys).take (xs.length + i)).count '"' % 2 = (ys.take i).count '"' % 2 := by
      rw [List.take_length_add_append, List.count_append]
      omega
    simp only [Function.comp_apply, hplace, hcount]

theorem placesOutside_of_not_mem {c : Char} {cs : List Char} (h : c ∉ cs) :
    placesOutside c cs = [] := by
  rw [List.eq_nil_iff_forall_not_mem]
  intro i hi
  exact h (List.mem_of_getElem? (mem_placesOutside_iff.mp hi).1)

theorem placesOutside_singleton (c : Char) : placesOutside c [c] = [0] := by
  simp [placesOutside]

/-- Behind a line whose quotes pair up the places are counted afresh on the next line. -/
theorem placesOutside_append_break {l : List Char} (h : l.count '"' % 2 = 0) {c : Char}
    (hc : c ≠ '\n') (rest : List Char) :
    placesOutside c (l ++ '\n' :: rest) =
      placesOutside c l ++ (placesOutside c rest).map (l.length + 1 + ·) := by
  have hbreak : placesOutside c ['\n'] = [] := placesOutside_of_not_mem (by simpa using hc)
  rw [placesOutside_append h, ← List.singleton_append, placesOutside_append (by decide), hbreak,
    List.nil_append, List.map_map]
  congr 2
  funext i
  simp [Nat.add_assoc]

/-- Inside of a string one quote precedes each place, the closing quote apart. -/
theorem placesOutside_quoted {c : Char} (hc : c ≠ '"') {body : List Char} (hbody : '"' ∉ body) :
    placesOutside c ('"' :: (body ++ ['"'])) = [] := by
  rw [List.eq_nil_iff_forall_not_mem]
  intro i hi
  obtain ⟨hplace, heven⟩ := mem_placesOutside_iff.mp hi
  cases i with
  | zero => exact hc (by simpa using hplace.symm)
  | succ i =>
      rw [List.getElem?_cons_succ] at hplace
      by_cases hlt : i < body.length
      · have hnone : (body.take i).count '"' = 0 :=
          List.count_eq_zero.mpr fun hmem => hbody (List.mem_of_mem_take hmem)
        rw [List.take_succ_cons, List.take_append_of_le_length (by omega), List.count_cons_self,
          hnone] at heven
        omega
      · rw [List.getElem?_append_right (by omega)] at hplace
        exact hc (by simpa using (List.mem_of_getElem? hplace))

end Text

/-! ## Lexeme by lexeme -/

theorem Lexeme.IsRun.not_mem {l : Lexeme} (h : l.IsRun) {c : Char} (hc : isOrdinary c = false) :
    c ∉ l.text.toList := by
  intro hmem
  rw [h.2 c hmem] at hc
  exact absurd hc (by decide)

namespace Lexeme.Denotes

variable {l : Lexeme} {t : Token}

theorem length_placesOutside (h : l.Denotes t) {c : Char} (hc : isSymbol c = true) :
    (Text.placesOutside c l.text.toList).length = [t].count (.symbol c) := by
  have hother := not_ordinary_of_symbol hc
  cases h with
  | symbol d _ htext =>
      rw [htext]
      by_cases hd : d = c
      · subst hd
        simp [Text.placesOutside_singleton]
      · have hnot : c ∉ [d] := by simpa using Ne.symm hd
        simp [Text.placesOutside_of_not_mem hnot, hd]
  | quoted body hquote _ htext =>
      simp [htext, Text.placesOutside_quoted (ne_quote_of_symbol hc) hquote]
  | number hrun _ => simp [Text.placesOutside_of_not_mem (hrun.not_mem hother)]
  | name hrun _ => simp [Text.placesOutside_of_not_mem (hrun.not_mem hother)]

theorem count_quotes (h : l.Denotes t) :
    l.text.toList.count '"' = 2 * ([t].map Token.kind).count .string := by
  have hquote : isOrdinary '"' = false := by decide
  cases h with
  | symbol d hd htext => simp [htext, ne_quote_of_symbol hd, Token.kind]
  | quoted body hbody _ htext => simp [htext, List.count_eq_zero.mpr hbody, Token.kind]
  | number hrun _ => simp [List.count_eq_zero.mpr (hrun.not_mem hquote), Token.kind]
  | name hrun _ => simp [List.count_eq_zero.mpr (hrun.not_mem hquote), Token.kind]

end Lexeme.Denotes

theorem count_quotes_of_separators {gap : List Char} (h : ∀ c ∈ gap, Text.isSeparator c = true) :
    gap.count '"' = 0 :=
  List.count_eq_zero.mpr fun hmem => absurd (h _ hmem) (by decide)

theorem placesOutside_of_separators {gap : List Char} (h : ∀ c ∈ gap, Text.isSeparator c = true)
    {c : Char} (hc : isSymbol c = true) : Text.placesOutside c gap = [] := by
  apply Text.placesOutside_of_not_mem
  intro hmem
  have hsep := h c hmem
  rw [not_separator_of_symbol hc] at hsep
  exact Bool.false_ne_true hsep

namespace Tiles

variable {n : Nat} {touching : Bool} {cs : List Char} {ls : List Lexeme} {ts : List Token}

theorem count_quotes (h : Tiles n touching cs ls) (hts : List.Forall₂ Lexeme.Denotes ls ts) :
    cs.count '"' = 2 * (ts.map Token.kind).count .string := by
  induction hts generalizing n touching cs with
  | nil => simpa using count_quotes_of_separators h
  | @cons l t ls ts ht _ ih =>
      obtain ⟨gap, shape, rest, rfl, hgap, -, -, -, -, htiles⟩ := h
      have hcons : t :: ts = [t] ++ ts := rfl
      rw [List.count_append, List.count_append, count_quotes_of_separators hgap, ht.count_quotes,
        ih htiles, hcons, List.map_append, List.count_append]
      omega

/-- The symbols among the tokens are the places of symbols outside of strings. -/
theorem count_symbol (h : Tiles n touching cs ls) (hts : List.Forall₂ Lexeme.Denotes ls ts)
    {c : Char} (hc : isSymbol c = true) :
    ts.count (.symbol c) = (Text.placesOutside c cs).length := by
  induction hts generalizing n touching cs with
  | nil => simp [placesOutside_of_separators h hc]
  | @cons l t ls ts ht _ ih =>
      obtain ⟨gap, shape, rest, rfl, hgap, -, -, -, -, htiles⟩ := h
      have hgapEven : gap.count '"' % 2 = 0 := by rw [count_quotes_of_separators hgap]
      have htextEven : l.text.toList.count '"' % 2 = 0 := by
        rw [ht.count_quotes]
        omega
      rw [Text.placesOutside_append hgapEven, Text.placesOutside_append htextEven,
        placesOutside_of_separators hgap hc, ← List.singleton_append, List.count_append, ih htiles,
        ← ht.length_placesOutside hc]
      simp

end Tiles

/-! ## The last lexeme -/

theorem exists_last_of_splitChars {cs : List Char} {ls : List Lexeme} (hne : cs ≠ [])
    (h : splitChars cs = .ok ls) :
    ∃ init l, ls = init ++ [l] ∧ l.text.toList = [terminator] := by
  obtain ⟨s, hscan, rfl⟩ := splitChars_eq_ok_iff.mp h
  obtain ⟨before, last, rfl⟩ : ∃ before last, cs = before ++ [last] := by
    simpa using (List.eq_nil_or_concat cs).resolve_left hne
  obtain ⟨hstep, hend⟩ := Splitting.scan_cons_spec (Splitting.scan_append_spec hscan)
  obtain ⟨-, -, hlast⟩ := Splitting.step_spec hstep
  obtain ⟨rfl, hopen⟩ := hlast Splitting.endsLine_nil
  obtain rfl : _ = s := Except.ok.inj hend
  rw [Splitting.read_of_opening_none hopen, Splitting.stepPlain_symbol _ isSymbol_terminator]
  exact ⟨_, _, List.reverse_cons, String.toList_singleton terminator⟩

theorem getLast?_of_denotes {cs : List Char} {ls : List Lexeme} {ts : List Token} (hne : cs ≠ [])
    (h : splitChars cs = .ok ls) (hts : List.Forall₂ Lexeme.Denotes ls ts) :
    ts.getLast? = some (.symbol terminator) := by
  obtain ⟨init, l, rfl, htext⟩ := exists_last_of_splitChars hne h
  obtain ⟨first, t, last, rfl, -, ht, hlast⟩ := forall₂_denotes_append_cons hts
  obtain rfl : last = [] := List.forall₂_nil_left_iff.mp hlast
  have hshape : ∃ shape : Shape, shape.Describes l.text.toList :=
    ⟨.symbol, terminator, isSymbol_terminator, htext⟩
  have hsymbol := classify_symbol isSymbol_terminator htext
  have hcounted := ((classify_eq_ok_iff hshape).mp hsymbol).2
  have hclassify := (classify_eq_ok_iff hshape).mpr ⟨ht, hcounted⟩
  rw [hsymbol] at hclassify
  rw [List.getLast?_concat, Except.ok.inj hclassify]

/-! ## Line by line -/

theorem placesOutside_statement {init : List Char} (h : IsStatement (init ++ [terminator])) :
    Text.placesOutside terminator (init ++ [terminator]) =
      Text.placesOutside terminator init ++ [init.length] := by
  have heven : init.count '"' % 2 = 0 := by
    rw [← count_append_terminator]
    exact h.2
  rw [Text.placesOutside_append heven, Text.placesOutside_singleton]
  rfl

/-- A statement has a terminator at its end. It has no other outside of strings exactly if each that
it has ends the line. -/
theorem terminators_of_statement {l : List Char} (hline : '\n' ∉ l) (h : IsStatement l)
    {rest : List Char} (hrest : Splitting.endsLine rest = true) :
    1 ≤ (Text.placesOutside terminator l).length ∧
      ((Text.placesOutside terminator l).length = 1 ↔
        ∀ i ∈ Text.placesOutside terminator l,
          Splitting.endsLine ((l ++ rest).drop (i + 1)) = true) := by
  obtain ⟨init, rfl⟩ := List.getLast?_eq_some_iff.mp h.1
  have hinner : ∀ i < init.length,
      Splitting.endsLine ((init ++ [terminator] ++ rest).drop (i + 1)) = false := by
    intro i hi
    rw [List.drop_append_of_le_length (by simp; omega)]
    apply Splitting.endsLine_append
    · simp [List.drop_append_of_le_length (Nat.succ_le_of_lt hi)]
    · exact fun hmem => hline (List.mem_of_mem_drop hmem)
  have hlast :
      Splitting.endsLine ((init ++ [terminator] ++ rest).drop (init.length + 1)) = true := by
    rwa [List.drop_left' (by simp)]
  rw [placesOutside_statement h, List.length_append, List.length_singleton]
  refine ⟨by omega, ?_⟩
  constructor
  · intro hone i hi
    have hnil : Text.placesOutside terminator init = [] := List.length_eq_zero_iff.mp (by omega)
    obtain rfl : i = init.length := by simpa [hnil] using hi
    exact hlast
  · intro hall
    have hnil : Text.placesOutside terminator init = [] := by
      rw [List.eq_nil_iff_forall_not_mem]
      intro i hi
      have hends := hall i (List.mem_append_left _ hi)
      rw [hinner i (Text.lt_length_of_mem_placesOutside hi)] at hends
      exact Bool.false_ne_true hends
    rw [hnil]
    rfl

/-- A text of statements has as many terminators outside of strings as lines, or more; it has no
more exactly if each of them ends its line. -/
theorem terminators_of_statements {cs : List Char} (h : ∀ l ∈ Text.lines cs, IsStatement l) :
    (Text.lines cs).length ≤ (Text.placesOutside terminator cs).length ∧
      ((Text.placesOutside terminator cs).length = (Text.lines cs).length ↔
        ∀ i ∈ Text.placesOutside terminator cs,
          Splitting.endsLine (cs.drop (i + 1)) = true) := by
  induction cs using Text.line_induction with
  | last l hl =>
      rw [Text.lines_of_not_mem hl] at h ⊢
      simpa using terminators_of_statement hl (h l List.mem_cons_self) Splitting.endsLine_nil
  | more l rest hl ih =>
      have hlines : Text.lines (l ++ '\n' :: rest) = l :: Text.lines rest := by
        rw [Text.lines_append_break, Text.lines_of_not_mem hl, List.singleton_append]
      rw [hlines] at h ⊢
      have hbreak : Splitting.endsLine ('\n' :: rest) = true := rfl
      obtain ⟨hfirst, hfirst'⟩ := terminators_of_statement hl (h l List.mem_cons_self) hbreak
      obtain ⟨hmore, hmore'⟩ := ih fun k hk => h k (List.mem_cons_of_mem l hk)
      have hdrop : ∀ i, (l ++ '\n' :: rest).drop (l.length + 1 + i + 1) = rest.drop (i + 1) := by
        intro i
        rw [Nat.add_assoc, Nat.add_assoc, List.drop_length_add_append, Nat.add_comm 1,
          List.drop_succ_cons]
      rw [Text.placesOutside_append_break (h l List.mem_cons_self).2 (by decide),
        List.length_append, List.length_map, List.length_cons, List.forall_mem_append, ← hfirst',
        List.forall_mem_map]
      simp only [hdrop, ← hmore']
      omega

/-- The tokens of a text hold each symbol as often as it stands outside of strings, and one string
for each pair of quotes. The last token is the terminator, and there are as many terminators as
lines, or more; there are no more exactly if each terminator outside of strings ends its line. -/
theorem tokenize_counts_occurrences (source : String) (ts : List Token) (hne : source ≠ "")
    (h : tokenize source = .ok ts) :
    (∀ c ∈ symbols, ts.count (.symbol c) = (Text.placesOutside c source.toList).length) ∧
    2 * (ts.map Token.kind).count .string = source.toList.count '"' ∧
    ts.getLast? = some (.symbol terminator) ∧
    1 + source.toList.count '\n' ≤ ts.count (.symbol terminator) ∧
    (ts.count (.symbol terminator) = 1 + source.toList.count '\n' ↔
      ∀ i ∈ Text.placesOutside terminator source.toList,
        ∀ next, source.toList[i + 1]? = some next → next = '\n') := by
  have hcs : source.toList ≠ [] := fun hnil => hne (String.toList_eq_nil_iff.mp hnil)
  obtain ⟨ls, hls⟩ := exists_split_of_tokenize h
  have hdenotes := ((tokenize_iff_forall₂ hls).mp h).1
  have htiles := splitChars_tiles hls
  have hlines := (splitChars_ok_iff.mp ⟨ls, hls⟩).resolve_left hcs
  have hterminators := htiles.count_symbol hdenotes isSymbol_terminator
  obtain ⟨hle, hiff⟩ := terminators_of_statements hlines
  rw [← hterminators, Text.length_lines] at hle hiff
  simp only [Splitting.endsLine_iff, List.head?_drop] at hiff
  refine ⟨?_, (htiles.count_quotes hdenotes).symm, getLast?_of_denotes hcs hls hdenotes, hle, hiff⟩
  intro c hc
  exact htiles.count_symbol hdenotes (by simpa [isSymbol] using hc)

theorem tokenize_counts_occurrences_terminator_inside :
    let source := "a;b=\"x;+\"+1;\n-c;"
    let ts : List Token := [.name "a", .symbol ';', .name "b", .symbol '=', .string "x;+",
      .symbol '+', .number ⟨0x3FF0000000000000⟩, .symbol ';', .symbol '-', .name "c", .symbol ';']
    source ≠ "" ∧ tokenize source = .ok ts ∧
    ts.count (.symbol ';') = (Text.placesOutside ';' source.toList).length ∧
    2 * (ts.map Token.kind).count .string = source.toList.count '"' ∧
    1 + source.toList.count '\n' ≤ ts.count (.symbol ';') ∧
    ¬ ∀ i ∈ Text.placesOutside ';' source.toList,
      ∀ next, source.toList[i + 1]? = some next → next = '\n' := by
  intro source ts
  have hne : source ≠ "" := by decide
  have htokens : tokenize source = .ok ts := by decide +kernel
  obtain ⟨hsymbols, hstrings, -, hle, hiff⟩ := tokenize_counts_occurrences source ts hne htokens
  exact ⟨hne, htokens, hsymbols ';' (by decide), hstrings, hle,
    fun hall => absurd (hiff.mpr hall) (by decide +kernel)⟩

end StatementLexer
