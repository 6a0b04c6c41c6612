import StatementLexer.Proofs.Decimal.Distinct
import StatementLexer.Proofs.Session.Room
import StatementLexer.Proofs.Token.Emission

/-! # Listings give their tokens back

A listing shows names and strings as they are, with nothing escaped. Still it can be read in one way
only. No token has a line break in it, so each ends with its line; and what follows the tokens of a
file, be it their count or the heading of the next file, does not start as a token does. Main
statement: `run_text_inj`.
-/

namespace StatementLexer

/-! ## Rows -/

theorem TokenKind.label_inj {k m : TokenKind} (h : k.label = m.label) : k = m := by
  revert h
  cases k <;> cases m <;> decide

theorem TokenKind.paren_not_mem_label (k : TokenKind) : '(' ∉ k.label.toList := by
  cases k <;> decide

namespace Token

def row (t : Token) : List Char :=
  t.describe.toList ++ ['\n']

def startsRow (c : Char) : Bool :=
  c == 'N' || c == 'S'

/-- A text that does not go on with a row. -/
def EndsRows (cs : List Char) : Prop :=
  ∀ c, cs.head? = some c → startsRow c = false

theorem toList_describe (t : Token) :
    t.describe.toList = t.kind.label.toList ++ '(' :: (t.listed.toList ++ [')']) := by
  simp [describe]

theorem exists_row_eq_cons (t : Token) : ∃ c cs, t.row = c :: cs ∧ startsRow c = true := by
  have hlabel : ∀ k : TokenKind, ∃ c cs, k.label.toList = c :: cs ∧ startsRow c = true := by
    intro k
    cases k <;> exact ⟨_, _, rfl, rfl⟩
  obtain ⟨c, cs, hcons, hc⟩ := hlabel t.kind
  rw [row, toList_describe, hcons]
  exact ⟨c, _, rfl, hc⟩

theorem eq_of_listed {t u : Token} (ht : t.Lexical) (hu : u.Lexical) (hkind : t.kind = u.kind)
    (hlisted : t.listed = u.listed) : t = u := by
  cases t <;> cases u <;> try cases hkind
  · exact congrArg name hlisted
  · exact congrArg number (Layout.labelled.write_inj ht hu hlisted)
  · exact congrArg string hlisted
  · have hchars := congrArg String.toList hlisted
    simp only [listed, String.toList_singleton, List.cons.injEq, and_true] at hchars
    exact congrArg symbol hchars

/-- A value may hold parentheses, but a label holds none. -/
theorem describe_inj {t u : Token} (ht : t.Lexical) (hu : u.Lexical)
    (h : t.describe.toList = u.describe.toList) : t = u := by
  rw [toList_describe, toList_describe] at h
  obtain ⟨hkind, hvalue⟩ :=
    append_cons_inj t.kind.paren_not_mem_label u.kind.paren_not_mem_label h
  have hlisted : t.listed.toList = u.listed.toList := List.append_cancel_right hvalue
  exact eq_of_listed ht hu (TokenKind.label_inj (String.toList_inj.mp hkind))
    (String.toList_inj.mp hlisted)

/-- The only values unequal to themselves are not numbers, and no lexeme denotes one. -/
theorem Lexical.agrees_self {t : Token} (h : t.Lexical) : t.agrees t = true := by
  cases t with
  | number x =>
      have hnan : x.isNaN = false := h.1
      simp [agrees, Binary64.numEq, hnan]
  | _ => simp [agrees]

theorem break_not_mem_listed {t : Token} (h : t.Lexical) : '\n' ∉ t.listed.toList := by
  intro hbreak
  cases t with
  | name text => exact absurd (h.2 '\n' hbreak).1 (by decide)
  | number x =>
      rcases (Layout.labelled.write_tells h.1 h.2).chars '\n' hbreak with hdigit | hmark
      · exact absurd hdigit (by decide)
      · exact absurd hmark (by decide)
  | string text => exact h.2 hbreak
  | symbol c =>
      have hc : '\n' = c := by simpa [listed] using hbreak
      have hsymbol : '\n' ∈ symbols := hc ▸ h
      exact absurd hsymbol (by decide)

theorem break_not_mem_describe {t : Token} (h : t.Lexical) : '\n' ∉ t.describe.toList := by
  have hlabel : '\n' ∉ t.kind.label.toList := by
    cases t.kind <;> decide
  rw [toList_describe]
  simp [hlabel, break_not_mem_listed h]

theorem row_append_inj {t u : Token} (ht : t.Lexical) (hu : u.Lexical) {rest rest' : List Char}
    (h : t.row ++ rest = u.row ++ rest') : t = u ∧ rest = rest' := by
  simp only [row, List.append_assoc, List.singleton_append] at h
  obtain ⟨hdescribe, hrest⟩ :=
    append_cons_inj (break_not_mem_describe ht) (break_not_mem_describe hu) h
  exact ⟨describe_inj ht hu hdescribe, hrest⟩

theorem row_append_ne (t : Token) {rest cs : List Char} (h : EndsRows cs) : t.row ++ rest ≠ cs := by
  intro heq
  obtain ⟨c, more, hrow, hc⟩ := t.exists_row_eq_cons
  rw [hrow] at heq
  rw [h c (by rw [← heq]; rfl)] at hc
  exact Bool.false_ne_true hc

/-- The rows at the beginning of a text are told by it, if what follows does not start as one. -/
theorem rows_append_inj {ts us : List Token} (hts : ∀ t ∈ ts, t.Lexical)
    (hus : ∀ u ∈ us, u.Lexical) {rest rest' : List Char} (hrest : EndsRows rest)
    (hrest' : EndsRows rest') (h : ts.flatMap row ++ rest = us.flatMap row ++ rest') :
    ts = us ∧ rest = rest' := by
  induction ts generalizing us with
  | nil =>
      cases us with
      | nil => exact ⟨rfl, h⟩
      | cons u us =>
          rw [List.flatMap_cons, List.append_assoc] at h
          exact absurd h.symm (u.row_append_ne hrest)
  | cons t ts ih =>
      obtain ⟨ht, hts⟩ := List.forall_mem_cons.mp hts
      rw [List.flatMap_cons, List.append_assoc] at h
      cases us with
      | nil => exact absurd h (t.row_append_ne hrest')
      | cons u us =>
          obtain ⟨hu, hmembers⟩ := List.forall_mem_cons.mp hus
          rw [List.flatMap_cons, List.append_assoc] at h
          obtain ⟨rfl, hmore⟩ := row_append_inj ht hu h
          obtain ⟨rfl, rfl⟩ := ih hts hmembers hmore
          exact ⟨rfl, rfl⟩

end Token

/-! ## Files -/

namespace FileTokens

def counts (tokens : List Token) (summary : Bool) : List Char :=
  if summary then
    ("-- " ++ toString tokens.length ++ " tokens\n").toList ++
      (String.join (Tally.ofTokens tokens).lines).toList
  else []

def listing (f : FileTokens) (summary several : Bool) : List Char :=
  (if several then f.heading.toList else []) ++
    (f.tokens.flatMap Token.row ++ counts f.tokens summary)

theorem toList_join_lines (f : FileTokens) (summary : Bool) :
    (String.join (f.lines summary)).toList =
      f.tokens.flatMap Token.row ++ counts f.tokens summary := by
  have hrow : ∀ t : Token, (t.describe ++ "\n").toList = t.row := by
    intro t
    rw [String.toList_append]
    rfl
  rw [String.toList_join, lines, List.flatMap_append, List.flatMap_map]
  simp only [hrow]
  cases summary with
  | false => rfl
  | true =>
      simp only [counts, if_true, List.flatMap_cons]
      rw [String.toList_join]

theorem cells_text_bytes (f : FileTokens) (summary several : Bool) :
    (f.cells .text summary several).map Cell.byte =
      Text.bytes (String.ofList (f.listing summary several)) := by
  have htext : (if several then f.heading else "") ++ String.join (f.lines summary) =
      String.ofList (f.listing summary several) := by
    rw [← String.toList_inj, String.toList_append, toList_join_lines, String.toList_ofList, listing]
    cases several <;> rfl
  simp [cells, Cell.ofText, Function.comp_def, htext]

theorem endsRows_counts (tokens : List Token) (summary : Bool) {rest : List Char}
    (hrest : Token.EndsRows rest) : Token.EndsRows (counts tokens summary ++ rest) := by
  intro c hc
  cases summary with
  | false => exact hrest c hc
  | true =>
      have hdash : '-' = c := by simpa [counts] using hc
      rw [← hdash]
      rfl

/-- The block of a file that has a known name tells its tokens. -/
theorem listing_append_inj {f g : FileTokens} (hname : f.name = g.name)
    (hf : ∀ t ∈ f.tokens, t.Lexical) (hg : ∀ t ∈ g.tokens, t.Lexical) {summary several : Bool}
    {rest rest' : List Char} (hrest : Token.EndsRows rest) (hrest' : Token.EndsRows rest')
    (h : f.listing summary several ++ rest = g.listing summary several ++ rest') :
    f = g ∧ rest = rest' := by
  obtain ⟨name, ts⟩ := f
  obtain ⟨name', us⟩ := g
  obtain rfl : name = name' := hname
  simp only [listing, List.append_assoc] at h
  obtain ⟨rfl, hbelow⟩ := Token.rows_append_inj hf hg (endsRows_counts ts summary hrest)
    (endsRows_counts us summary hrest') (List.append_cancel_left h)
  exact ⟨rfl, List.append_cancel_left hbelow⟩

theorem endsRows_listings {files : List FileTokens} {summary several : Bool}
    (hseveral : several = false → files = []) :
    Token.EndsRows (files.flatMap (·.listing summary several)) := by
  intro c hc
  cases files with
  | nil => simp at hc
  | cons f files =>
      cases several with
      | false => exact absurd (hseveral rfl) (by simp)
      | true =>
          have hmark : '=' = c := by simpa [listing, heading] using hc
          rw [← hmark]
          rfl

/-- The blocks of files with known names tell the tokens of each. Without headings there is one
block at most. -/
theorem listings_inj {files files' : List FileTokens} (hnames : files.map name = files'.map name)
    (hfiles : ∀ f ∈ files, ∀ t ∈ f.tokens, t.Lexical)
    (hfiles' : ∀ f ∈ files', ∀ t ∈ f.tokens, t.Lexical) {summary several : Bool}
    (hseveral : several = false → files.length ≤ 1)
    (h : files.flatMap (·.listing summary several) = files'.flatMap (·.listing summary several)) :
    files = files' := by
  induction files generalizing files' with
  | nil => exact (List.map_eq_nil_iff.mp hnames.symm).symm
  | cons f files ih =>
      cases files' with
      | nil => simp at hnames
      | cons f' files' =>
          obtain ⟨hname, hmore⟩ := List.cons.inj hnames
          obtain ⟨hf, hfs⟩ := List.forall_mem_cons.mp hfiles
          obtain ⟨hf', hfs'⟩ := List.forall_mem_cons.mp hfiles'
          have hlast : several = false → files = [] := by
            intro hs
            have hlength := hseveral hs
            rw [List.length_cons] at hlength
            exact List.length_eq_zero_iff.mp (by omega)
          have hlast' : several = false → files' = [] := by
            intro hs
            rw [hlast hs] at hmore
            exact List.map_eq_nil_iff.mp hmore.symm
          obtain ⟨rfl, hrest⟩ := listing_append_inj hname hf hf' (endsRows_listings hlast)
            (endsRows_listings hlast') h
          have hshort : several = false → files.length ≤ 1 := by
            intro hs
            rw [hlast hs]
            exact Nat.zero_le 1
          rw [ih hmore hfs hfs' hshort hrest]

end FileTokens

/-! ## Sessions -/

theorem forall₂_of_mapM {α β ε : Type} {f : α → Except ε β} {xs : List α} {ys : List β}
    (h : xs.mapM f = .ok ys) : List.Forall₂ (fun x y => f x = .ok y) xs ys := by
  induction xs generalizing ys with
  | nil =>
      cases h
      exact .nil
  | cons x xs ih =>
      cases hx : f x with
      | error e =>
          rw [mapM_cons_of_error hx] at h
          cases h
      | ok y =>
          rw [mapM_cons_of_ok hx] at h
          cases hxs : xs.mapM f with
          | error e =>
              rw [hxs] at h
              cases h
          | ok zs =>
              rw [hxs] at h
              cases h
              exact .cons hx (ih hxs)

theorem Text.bytes_inj {s t : String} (h : bytes s = bytes t) : s = t :=
  String.toByteArray_inj.mp (ByteArray.ext (Array.toList_inj.mp h))

namespace Session

theorem lexSource_spec {file : SourceFile} {f : FileTokens} (h : lexSource file = .ok f) :
    f.name = file.name ∧ ∀ t ∈ f.tokens, t.Lexical := by
  unfold lexSource at h
  split at h
  next tokens htokens =>
      cases h
      exact ⟨rfl, lexical_of_tokenize htokens⟩
  next => cases h

/-- The files of a session keep their names, and their tokens are those of lexemes. -/
theorem lex_spec {s : Session} {files : List FileTokens} (h : s.lex = .ok files) :
    files.map FileTokens.name = s.sources.map SourceFile.name ∧
      ∀ f ∈ files, ∀ t ∈ f.tokens, t.Lexical := by
  have hpass := (forall₂_of_mapM h).imp fun _ _ => lexSource_spec
  generalize s.sources = sources at hpass ⊢
  clear h
  induction hpass with
  | nil => simp
  | cons hf _ ih =>
      rw [List.map_cons, List.map_cons, hf.1, ih.1]
      exact ⟨rfl, List.forall_mem_cons.mpr ⟨hf.2, ih.2⟩⟩

theorem name_of_readSource {shelf : Shelf} {path : String} {file : SourceFile}
    (h : readSource shelf path = .ok file) : file.name = path := by
  cases hshelf : shelf path with
  | error cause => simp [readSource_of_error hshelf] at h
  | ok text =>
      rw [readSource_of_ok hshelf] at h
      cases h
      rfl

theorem names_of_start {options : Options} {shelf : Shelf} {s : Session}
    (h : start options shelf = .ok s) : s.sources.map SourceFile.name = options.files := by
  have hpass := (forall₂_of_mapM (start_spec h).2).imp fun _ _ => name_of_readSource
  generalize options.files = paths, s.sources = sources at hpass ⊢
  clear h
  induction hpass with
  | nil => rfl
  | cons hname _ ih => rw [List.map_cons, hname, ih]

/-- What a session writes to a sink without bounds, `block` being what it writes for a file. -/
theorem written_eq {s : Session} {files : List FileTokens} (h : s.lex = .ok files)
    {block : FileTokens → List Char}
    (hblock : ∀ f : FileTokens,
      (f.cells s.options.format s.options.summary (1 < files.length)).map Cell.byte =
        Text.bytes (String.ofList (block f)))
    {sink : Sink} (hroom : sink.room = none) :
    (s.run sink).1.written =
      sink.written ++ Text.bytes (String.ofList (files.flatMap block)) := by
  have htext : String.ofList (files.flatMap block) =
      String.join (files.map fun f => String.ofList (block f)) := by
    rw [← String.toList_inj, String.toList_join, List.flatMap_map]
    simp
  rw [run_eq h, htext, Text.bytes_join, List.flatMap_map]
  simp only [Sink.taking, hroom, cells, List.map_flatMap, hblock]

theorem written_text {s : Session} {files : List FileTokens} (h : s.lex = .ok files)
    (hformat : s.options.format = .text) {sink : Sink} (hroom : sink.room = none) :
    (s.run sink).1.written = sink.written ++ Text.bytes (String.ofList
      (files.flatMap (·.listing s.options.summary (1 < files.length)))) := by
  apply written_eq h _ hroom
  intro f
  rw [hformat]
  exact f.cells_text_bytes _ _

/-- Two sessions with files of the same names, the same way of listing and the same output have
found the same tokens. -/
theorem lex_of_written_text {s s' : Session} {files files' : List FileTokens}
    (hlex : s.lex = .ok files) (hlex' : s'.lex = .ok files')
    (hnames : s.sources.map SourceFile.name = s'.sources.map SourceFile.name)
    (hoptions : s.options = s'.options) (hformat : s.options.format = .text) {sink : Sink}
    (hroom : sink.room = none) (h : (s.run sink).1.written = (s'.run sink).1.written) :
    files = files' := by
  obtain ⟨hfiles, hlexical⟩ := lex_spec hlex
  obtain ⟨hfiles', hlexical'⟩ := lex_spec hlex'
  have hsame : files.map FileTokens.name = files'.map FileTokens.name := by
    rw [hfiles, hnames, hfiles']
  have hlength : files'.length = files.length := by
    rw [← List.length_map FileTokens.name, ← hsame, List.length_map]
  rw [written_text hlex hformat hroom, written_text hlex' (hoptions ▸ hformat) hroom, hlength,
    ← hoptions] at h
  have htexts := String.ofList_injective (Text.bytes_inj (List.append_cancel_left h))
  apply FileTokens.listings_inj hsame hlexical hlexical' _ htexts
  intro hseveral
  have hfew : ¬ 1 < files.length := of_decide_eq_false hseveral
  omega

end Session

/-- Sessions that list the same files as text, and count the tokens or not, write the same only if
they found the same tokens in every file. These tokens also agree as values: no number among them is
unequal to itself. -/
theorem run_text_inj (paths : List String) (summary : Bool) (shelf shelf' : Shelf)
    (s s' : Session) (hstart : Session.start ⟨paths, .text, summary⟩ shelf = .ok s)
    (hstart' : Session.start ⟨paths, .text, summary⟩ shelf' = .ok s')
    (files files' : List FileTokens) (hlex : s.lex = .ok files) (hlex' : s'.lex = .ok files')
    (sink : Sink) (hroom : sink.room = none)
    (h : (s.run sink).1.written = (s'.run sink).1.written) :
    files = files' ∧ ∀ f ∈ files, ∀ t ∈ f.tokens, t.agrees t = true := by
  obtain ⟨hoptions, -⟩ := Session.start_spec hstart
  obtain ⟨hoptions', -⟩ := Session.start_spec hstart'
  have hnames : s.sources.map SourceFile.name = s'.sources.map SourceFile.name := by
    rw [Session.names_of_start hstart, Session.names_of_start hstart']
  constructor
  · exact Session.lex_of_written_text hlex hlex' hnames (hoptions.trans hoptions'.symm)
      (by rw [hoptions]) hroom h
  · intro f hf t ht
    exact ((Session.lex_spec hlex).2 f hf t ht).agrees_self

theorem run_text_inj_other_spacing :
    let options : Options := ⟨["a.math", "-- 4 tokens"], .text, true⟩
    let s : Session := ⟨options, [⟨"a.math", "x)=1;"⟩, ⟨"-- 4 tokens", "\"-- 1 tokens\";"⟩]⟩
    let s' : Session :=
      ⟨options, [⟨"a.math", "x) = 1.0 ;\n"⟩, ⟨"-- 4 tokens", "\"-- 1 tokens\" ;"⟩]⟩
    (s.run Sink.unlimited).1.written = (s'.run Sink.unlimited).1.written ∧
    s.lex = s'.lex ∧
    ∃ files, s.lex = .ok files ∧ ∀ f ∈ files, ∀ t ∈ f.tokens, t.agrees t = true := by
  intro options s s'
  let shelf (text text' : String) : Shelf := fun path =>
    if path = "a.math" then .ok text else .ok text'
  let files : List FileTokens :=
    [⟨"a.math", [.name "x)", .symbol '=', .number ⟨0x3FF0000000000000⟩, .symbol ';']⟩,
      ⟨"-- 4 tokens", [.string "-- 1 tokens", .symbol ';']⟩]
  have hlex : s.lex = .ok files := by decide +kernel
  obtain ⟨files', hlex'⟩ : ∃ files', s'.lex = .ok files' := ⟨_, rfl⟩
  have hwritten : (s.run Sink.unlimited).1.written = (s'.run Sink.unlimited).1.written := by
    decide +kernel
  obtain ⟨hsame, hagrees⟩ := run_text_inj ["a.math", "-- 4 tokens"] true
    (shelf "x)=1;" "\"-- 1 tokens\";") (shelf "x) = 1.0 ;\n" "\"-- 1 tokens\" ;") s s' rfl rfl
    files files' hlex hlex' Sink.unlimited rfl hwritten
  exact ⟨hwritten, by rw [hlex, hlex', hsame], files, hlex, hagrees⟩

end StatementLexer
