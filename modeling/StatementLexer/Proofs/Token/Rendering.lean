import StatementLexer.Proofs.Decimal.Width
import StatementLexer.Proofs.Lexeme.Statements
import StatementLexer.Proofs.Token.Language

/-! # Tokens that are written and read

Tokens that a text can hold, written one after another with separators between them and the
terminator behind them, are the tokens of what is written. The texts of the tokens tile the line, and
a line has one tiling only, so they are its lexemes. Main statement: `tokenize_rendered`.
-/

namespace StatementLexer

/-! ## Texts of tokens -/

namespace Token

def WellFormed : Token → Prop
  | name t => t.toList.head?.any Text.isLetter = true ∧ ∀ c ∈ t.toList, isOrdinary c = true
  | number x => x.isFinite = true ∧ x.isNegative = false
  | string t => '"' ∉ t.toList ∧ '\n' ∉ t.toList
  | symbol c => isSymbol c = true

instance : (t : Token) → Decidable t.WellFormed
  | name t => decidable_of_iff (t.toList.head?.any Text.isLetter = true ∧
      t.toList.all isOrdinary = true) (by simp [WellFormed])
  | number _ => inferInstanceAs (Decidable (_ ∧ _))
  | string _ => inferInstanceAs (Decidable (_ ∧ _))
  | symbol _ => inferInstanceAs (Decidable (_ = _))

theorem WellFormed.denotes {t : Token} (h : t.WellFormed) {l : Lexeme} (htext : l.text = t.text) :
    l.Denotes t := by
  cases t with
  | name s =>
      obtain rfl : l.text = s := htext
      obtain ⟨c, hhead, hletter⟩ := (Option.any_eq_true _ _).mp h.1
      have hne : l.text.toList ≠ [] := by
        intro hempty
        simp [hempty] at hhead
      exact .name ⟨hne, h.2⟩ ⟨c, hhead, hletter⟩
  | number x =>
      obtain ⟨hshape, hvalue⟩ := Layout.value_write h.1 h.2
      have hwritten : l.text.toList = (Layout.plain.write x).toList := congrArg String.toList htext
      have hnumeric : l.IsNumeric := by
        rw [Lexeme.IsNumeric, hwritten]
        exact hshape
      have hdenotes := Lexeme.Denotes.number hnumeric.isRun hnumeric
      rwa [hwritten, hvalue] at hdenotes
  | string s =>
      have hquoted : l.text.toList = '"' :: (s.toList ++ ['"']) := by
        rw [htext]
        simp [Token.text]
      have hdenotes := Lexeme.Denotes.quoted s.toList h.1 h.2 hquoted
      rwa [String.ofList_toList] at hdenotes
  | symbol c =>
      refine .symbol c h ?_
      rw [htext]
      exact String.toList_singleton c

/-- The text of a token is counted, for a number has few digits. -/
theorem WellFormed.isCounted {t : Token} (h : t.WellFormed) {l : Lexeme} (htext : l.text = t.text) :
    l.IsCounted := by
  cases t with
  | number x =>
      intro _
      rw [htext]
      exact Layout.isNumeral_write h.1 h.2
  | _ => exact (h.denotes htext).isCounted (by simp [Token.kind])

end Token

theorem Lexeme.Denotes.exists_shape {l : Lexeme} {t : Token} (h : l.Denotes t) :
    ∃ shape : Shape, shape.Describes l.text.toList := by
  cases h with
  | symbol c hc htext => exact ⟨.symbol, c, hc, htext⟩
  | quoted body hbody hbreak htext => exact ⟨.quoted, body, hbody, hbreak, htext⟩
  | number hrun _ => exact ⟨.run, hrun⟩
  | name hrun _ => exact ⟨.run, hrun⟩

/-! ## Lines of tokens -/

/-- Separators other than line breaks. -/
def Text.IsGap (s : String) : Prop :=
  ∀ c ∈ s.toList, Text.isSeparator c = true ∧ c ≠ '\n'

instance (s : String) : Decidable (Text.IsGap s) :=
  decidable_of_iff (s.toList.all (fun c => Text.isSeparator c && c != '\n') = true)
    (by simp [Text.IsGap])

theorem Text.IsGap.line {s : String} (h : Text.IsGap s) :
    '\n' ∉ s.toList ∧ s.toList.count '"' = 0 := by
  refine ⟨fun hmem => (h _ hmem).2 rfl, List.count_eq_zero.mpr fun hmem => ?_⟩
  exact ne_quote_of_separator (h _ hmem).1 rfl

namespace Token

abbrev Spaced := Token × String

/-- A token that a text can hold, with something behind it to divide it from the next. -/
def Spaced.Fits (row : Spaced) : Prop :=
  row.1.WellFormed ∧ row.2 ≠ "" ∧ Text.IsGap row.2

instance (row : Spaced) : Decidable row.Fits :=
  inferInstanceAs (Decidable (_ ∧ _))

/-- Tokens, each with the separators behind it, and the terminator. -/
def written (rows : List Spaced) : List Char :=
  rows.flatMap (fun row => row.1.text.toList ++ row.2.toList) ++ [terminator]

@[simp] theorem written_cons (t : Token) (gap : String) (rows : List Spaced) :
    written ((t, gap) :: rows) = t.text.toList ++ (gap.toList ++ written rows) := by
  simp [written]

def ended (rows : List Spaced) : List Token :=
  rows.map (·.1) ++ [.symbol terminator]

@[simp] theorem ended_cons (t : Token) (gap : String) (rows : List Spaced) :
    ended ((t, gap) :: rows) = t :: ended rows := rfl

theorem wellFormed_of_mem_ended {rows : List Spaced} (hrows : ∀ row ∈ rows, row.Fits) :
    ∀ t ∈ ended rows, t.WellFormed := by
  intro t ht
  rcases List.mem_append.mp ht with hmem | hmem
  · obtain ⟨row, hrow, rfl⟩ := List.mem_map.mp hmem
    exact (hrows row hrow).1
  · rw [List.mem_singleton.mp hmem]
    show isSymbol terminator = true
    decide

theorem WellFormed.exists_shape {t : Token} (h : t.WellFormed) :
    ∃ shape : Shape, shape.Describes t.text.toList :=
  Lexeme.Denotes.exists_shape (l := ⟨t.text, ⟨0, 0, 0, 0⟩⟩) (h.denotes rfl)

end Token

open Token

/-- A lexeme with a given text, in front of a tiling and behind separators. -/
theorem Tiles.exists_cons_text {n : Nat} {touching : Bool} {gap rest : List Char} {text : String}
    {shape : Shape} {ls : List Lexeme} (hgap : ∀ c ∈ gap, Text.isSeparator c = true)
    (htouching : touching = true → gap ≠ []) (hshape : shape.Describes text.toList)
    (h : Tiles (n + Text.byteLength gap + Text.byteLength text.toList) (shape == .run) rest ls) :
    ∃ l : Lexeme, l.text = text ∧ Tiles n touching (gap ++ (text.toList ++ rest)) (l :: ls) := by
  let start := n + Text.byteLength gap
  refine ⟨⟨text, ⟨start, start + Text.byteLength text.toList, 0, 0⟩⟩, rfl, ?_⟩
  exact ⟨gap, shape, rest, rfl, hgap, hshape, fun h _ => htouching h, rfl, rfl, h⟩

/-- The texts of the tokens tile the line, also behind a run if separators come first. -/
theorem exists_tiling_of_written {lead : String} {rows : List Spaced} (hlead : Text.IsGap lead)
    (hrows : ∀ row ∈ rows, row.Fits) (n : Nat) (touching : Bool)
    (htouching : touching = true → lead ≠ "") :
    ∃ ls : List Lexeme, Tiles n touching (lead.toList ++ written rows) ls ∧
      ls.map Lexeme.text = (ended rows).map Token.text := by
  induction rows generalizing lead n touching with
  | nil =>
      have hshape : Shape.symbol.Describes (Token.symbol terminator).text.toList :=
        ⟨terminator, by decide, String.toList_singleton terminator⟩
      have hrest : ∀ m touches, Tiles m touches [] [] := fun _ _ _ hc => absurd hc List.not_mem_nil
      obtain ⟨l, htext, htiles⟩ := Tiles.exists_cons_text (n := n) (fun c hc => (hlead c hc).1)
        (fun h hempty => htouching h (String.toList_eq_nil_iff.mp hempty)) hshape (hrest _ _)
      exact ⟨[l], htiles, by simp [htext, ended]⟩
  | cons row rows ih =>
      obtain ⟨t, gap⟩ := row
      obtain ⟨ht, hne, hgap⟩ : t.WellFormed ∧ gap ≠ "" ∧ Text.IsGap gap :=
        hrows (t, gap) List.mem_cons_self
      obtain ⟨shape, hshape⟩ := ht.exists_shape
      have hrest : ∀ row ∈ rows, row.Fits := fun row hrow =>
        hrows row (List.mem_cons_of_mem (t, gap) hrow)
      obtain ⟨ls, htiles, htexts⟩ := ih hgap hrest
        (n + Text.byteLength lead.toList + Text.byteLength t.text.toList) (shape == .run)
        fun _ => hne
      obtain ⟨l, htext, htiles'⟩ := Tiles.exists_cons_text (fun c hc => (hlead c hc).1)
        (fun h hempty => htouching h (String.toList_eq_nil_iff.mp hempty)) hshape htiles
      refine ⟨l :: ls, ?_, ?_⟩
      · rw [written_cons]
        exact htiles'
      · rw [List.map_cons, htext, htexts, ended_cons, List.map_cons]

/-- A line of tokens has no line break, and all strings in it are closed. -/
theorem written_line {rows : List Spaced} (hrows : ∀ row ∈ rows, row.Fits) :
    '\n' ∉ written rows ∧ (written rows).count '"' % 2 = 0 := by
  induction rows with
  | nil => decide
  | cons row rows ih =>
      obtain ⟨t, gap⟩ := row
      obtain ⟨ht, -, hgap⟩ : t.WellFormed ∧ gap ≠ "" ∧ Text.IsGap gap :=
        hrows (t, gap) List.mem_cons_self
      obtain ⟨shape, hshape⟩ := ht.exists_shape
      obtain ⟨hbreak, heven⟩ := hshape.line
      obtain ⟨hbreak', hnone⟩ := hgap.line
      obtain ⟨hrest, hclosed⟩ := ih fun row hrow => hrows row (List.mem_cons_of_mem (t, gap) hrow)
      rw [written_cons, List.count_append, List.count_append]
      refine ⟨?_, by omega⟩
      simp only [List.mem_append, not_or]
      exact ⟨hbreak, hbreak', hrest⟩

theorem isStatement_written {lead : String} {rows : List Spaced} (hlead : Text.IsGap lead)
    (hrows : ∀ row ∈ rows, row.Fits) :
    '\n' ∉ lead.toList ++ written rows ∧ IsStatement (lead.toList ++ written rows) := by
  obtain ⟨hbreak, hnone⟩ := hlead.line
  obtain ⟨hrest, hclosed⟩ := written_line hrows
  refine ⟨by simp [hbreak, hrest], ?_, ?_⟩
  · simp [written]
  · rw [List.count_append]
    omega

/-- Tokens and separators in turn: `lead` before the first token, and behind the last one the
terminator. -/
def rendered (lead : String) (rows : List Spaced) : String :=
  lead ++ String.join (rows.map fun row => row.1.text ++ row.2) ++ (Token.symbol terminator).text

theorem toList_rendered (lead : String) (rows : List Spaced) :
    (rendered lead rows).toList = lead.toList ++ written rows := by
  have hend : (Token.symbol terminator).text.toList = [terminator] :=
    String.toList_singleton terminator
  simp [rendered, written, hend, List.flatMap_map]

theorem forall₂_denotes_of_texts {ls : List Lexeme} {ts : List Token}
    (hts : ∀ t ∈ ts, t.WellFormed) (h : ls.map Lexeme.text = ts.map Token.text) :
    List.Forall₂ Lexeme.Denotes ls ts := by
  induction ts generalizing ls with
  | nil =>
      obtain rfl : ls = [] := List.map_eq_nil_iff.mp h
      exact .nil
  | cons t ts ih =>
      cases ls with
      | nil => cases h
      | cons l ls =>
          obtain ⟨htext, hrest⟩ := List.cons.inj h
          refine .cons ((hts t List.mem_cons_self).denotes htext) (ih ?_ hrest)
          intro u hu
          exact hts u (List.mem_cons_of_mem t hu)

theorem isCounted_of_texts {ls : List Lexeme} {ts : List Token} (hts : ∀ t ∈ ts, t.WellFormed)
    (h : ls.map Lexeme.text = ts.map Token.text) : ∀ l ∈ ls, l.IsCounted := by
  intro l hl
  have hmem : l.text ∈ ts.map Token.text := h ▸ List.mem_map_of_mem hl
  obtain ⟨t, ht, htext⟩ := List.mem_map.mp hmem
  exact (hts t ht).isCounted htext.symm

/-- Tokens that a text can hold are read from what is written of them: whatever separators stand
before them and, at least one each time, between them, the tokens of the line are these. -/
theorem tokenize_rendered (lead : String) (rows : List Spaced) (hlead : Text.IsGap lead)
    (hrows : ∀ row ∈ rows, row.Fits) :
    tokenize (rendered lead rows) = .ok (rows.map (·.1) ++ [.symbol terminator]) := by
  obtain ⟨hline, hstatement⟩ := isStatement_written hlead hrows
  have hlines : ∀ l ∈ Text.lines (rendered lead rows).toList, IsStatement l := by
    rw [toList_rendered, Text.lines_of_not_mem hline]
    simpa using hstatement
  obtain ⟨ls, hsplit⟩ := splitChars_of_statements hlines
  obtain ⟨ms, htiles, htexts⟩ := exists_tiling_of_written hlead hrows 0 false (by simp)
  have hslices : ls.map Lexeme.slice = ms.map Lexeme.slice :=
    (splitChars_tiles hsplit).slice_unique (by rwa [toList_rendered])
  have hsame : ls.map Lexeme.text = ms.map Lexeme.text := by
    have := congrArg (List.map fun slice => slice.2.2) hslices
    simpa [Lexeme.slice, Function.comp_def] using this
  have hformed := wellFormed_of_mem_ended hrows
  exact (tokenize_iff_forall₂ hsplit).mpr ⟨forall₂_denotes_of_texts hformed (hsame.trans htexts),
    isCounted_of_texts hformed (hsame.trans htexts)⟩

theorem tokenize_rendered_mixed :
    tokenize "\x1cé\u00a01\u2028\"a; = b\"\u2003\t0.1 ;" = .ok
      [.name "é\u00a01", .string "a; = b", .number ⟨0x3FB999999999999A⟩, .symbol ';'] := by
  let rows : List Spaced := [(.name "é\u00a01", "\u2028"), (.string "a; = b", "\u2003\t"),
    (.number ⟨0x3FB999999999999A⟩, " ")]
  have htext : rendered "\x1c" rows = "\x1cé\u00a01\u2028\"a; = b\"\u2003\t0.1 ;" := by
    decide +kernel
  rw [← htext]
  exact tokenize_rendered "\x1c" rows (by decide +kernel) (by decide +kernel)

end StatementLexer
