import Mathlib.Algebra.Group.Nat.Defs
import StatementLexer.Proofs.Lexeme.Location
import StatementLexer.Proofs.Lexeme.Statements
import StatementLexer.Proofs.Source.LineIndex
import StatementLexer.Proofs.Text.Boundary
import StatementLexer.Proofs.Token.Language

/-! # Where faults stand

A fault is told with a span, and so is a lexeme. Some spans are made from a mark saved many
characters ago, some from the current character, and that of an empty line by hand; still each says
where its text stands, and a reader who counts bytes, line breaks and characters from the beginning
of the text finds the same. Main statement: `spans_locate`.
-/

namespace StatementLexer

/-! ## Pieces of a line -/

/-- The mark at the piece of a line that stands behind whole lines and the beginning `head`. -/
theorem Mark.start_broken_append {init : List (List Char)} {head : List Char}
    (hinit : ∀ l ∈ init, '\n' ∉ l) (hhead : '\n' ∉ head) :
    Mark.start (Text.broken init ++ head) =
      ⟨Text.byteLength (Text.broken init) + Text.byteLength head, init.length + 1,
        head.length + 1⟩ := by
  rw [start_append, start, behind_broken rfl hinit, behind_of_not_mem _ hhead]
  simp [origin, Nat.add_comm]

namespace Text

/-- The span of `piece`, which stands behind `before` in the line with index `i`. -/
def spanInLine (cs : List Char) (i : Nat) (before piece : List Char) : Span :=
  ⟨lineStart cs i + byteLength before, lineStart cs i + byteLength before + byteLength piece, i + 1,
    before.length + 1⟩

theorem getElem?_lines_broken_append {ls : List (List Char)} (h : ∀ l ∈ ls, '\n' ∉ l)
    {l : List Char} (hl : '\n' ∉ l) (rest : List Char) :
    ∃ more, (lines (broken ls ++ (l ++ rest)))[ls.length]? = some (l ++ more) := by
  by_cases hbreak : '\n' ∈ rest
  · obtain ⟨more, behind, rfl, hmore⟩ := List.eq_append_cons_of_mem hbreak
    have hline : '\n' ∉ l ++ more := by simp [hl, hmore]
    refine ⟨more, ?_⟩
    rw [lines_broken_append h, ← List.append_assoc, lines_append_break, lines_of_not_mem hline]
    simp
  · have hline : '\n' ∉ l ++ rest := by simp [hl, hbreak]
    refine ⟨rest, ?_⟩
    rw [lines_broken_append h, lines_of_not_mem hline]
    simp

/-- A piece without line breaks stands in one line, and its mark says where. -/
theorem exists_line_of_piece {cs before piece after : List Char}
    (h : cs = before ++ (piece ++ after)) (hpiece : '\n' ∉ piece) :
    ∃ i head tail, (lines cs)[i]? = some (head ++ (piece ++ tail)) ∧
      (Mark.start before).spanTo (byteLength before + byteLength piece) =
        spanInLine cs i head piece := by
  obtain ⟨init, head, hbefore⟩ := (List.eq_nil_or_concat (lines before)).resolve_left
    (lines_ne_nil before)
  rw [List.concat_eq_append] at hbefore
  have hlines : ∀ l ∈ init ++ [head], '\n' ∉ l := fun l hl =>
    not_mem_of_mem_lines (hbefore ▸ hl)
  have hinit : ∀ l ∈ init, '\n' ∉ l := fun l hl => hlines l (by simp [hl])
  have hhead : '\n' ∉ head := hlines head (by simp)
  have heq : before = broken init ++ head := by
    have hlast : (lines before)[init.length]? = some head := by simp [hbefore]
    rcases line_cases hlast with ⟨-, -, hlt⟩ | ⟨heq, -⟩
    · simp [hbefore] at hlt
    · simpa [hbefore] using heq
  have hwhole : cs = broken init ++ ((head ++ piece) ++ after) := by simp [h, heq]
  have hmid : '\n' ∉ head ++ piece := by simp [hhead, hpiece]
  obtain ⟨tail, htail⟩ := getElem?_lines_broken_append hinit hmid after
  rw [← hwhole] at htail
  have hstart : lineStart cs init.length = byteLength (broken init) := by
    unfold lineStart
    rw [hwhole, lines_broken_append hinit, List.take_left]
  refine ⟨init.length, head, tail, by simpa using htail, ?_⟩
  rw [spanInLine, hstart, heq, Mark.start_broken_append hinit hhead, byteLength_append]
  rfl

/-- The other way round, a piece of a line stands behind all lines before it. -/
theorem exists_piece_of_line {cs : List Char} {i : Nat} {head piece tail : List Char}
    (h : (lines cs)[i]? = some (head ++ (piece ++ tail))) :
    ∃ before after, cs = before ++ (piece ++ after) ∧
      spanInLine cs i head piece =
        (Mark.start before).spanTo (byteLength before + byteLength piece) := by
  obtain ⟨rest, heq, -⟩ := eq_of_getElem?_lines h
  have hinit : ∀ l ∈ (lines cs).take i, '\n' ∉ l := fun l hl =>
    not_mem_of_mem_lines (List.mem_of_mem_take hl)
  have hhead : '\n' ∉ head := by
    have hline := not_mem_of_mem_lines (List.mem_of_getElem? h)
    exact fun hmem => hline (List.mem_append_left _ hmem)
  have hlength : ((lines cs).take i).length = i := by
    obtain ⟨hlt, -⟩ := List.getElem?_eq_some_iff.mp h
    rw [List.length_take]
    omega
  refine ⟨broken ((lines cs).take i) ++ head, tail ++ rest, by simpa using heq, ?_⟩
  rw [Mark.start_broken_append hinit hhead, hlength, byteLength_append]
  rfl

/-- A line break at the end of a text leaves its lines where they are. -/
theorem getElem?_lines_append_break {cs l : List Char} {i : Nat} (h : (lines cs)[i]? = some l) :
    (lines (cs ++ ['\n']))[i]? = some l ∧ lineStart (cs ++ ['\n']) i = lineStart cs i := by
  obtain ⟨hlt, -⟩ := List.getElem?_eq_some_iff.mp h
  have hlines : lines (cs ++ ['\n']) = lines cs ++ [[]] := lines_append_break cs []
  unfold lineStart
  rw [hlines, List.getElem?_append_left hlt, List.take_append_of_le_length (by omega)]
  exact ⟨h, rfl⟩

end Text

/-! ## Faults -/

/-- A fault and the piece of a line of the text at which it stands. -/
inductive FaultAt (cs : List Char) : LexError → Prop where
  | emptyFirst (rest : List Char) : cs = '\n' :: rest →
      FaultAt cs (.missingTerminator ⟨0, 1, 1, 1⟩)
  | empty (i : Nat) : (Text.lines cs)[i]? = some [] →
      FaultAt cs (.missingTerminator (Text.spanInLine cs i [] []))
  | unended (i : Nat) (before : List Char) (last : Char) :
      (Text.lines cs)[i]? = some (before ++ [last]) →
      FaultAt cs (.missingTerminator (Text.spanInLine cs i before [last]))
  | within (e : LexError) (i : Nat) (before piece after : List Char) :
      (Text.lines cs)[i]? = some (before ++ (piece ++ after)) →
      (before ++ (piece ++ after)).getLast? = some terminator → piece ≠ [] →
      e.span = Text.spanInLine cs i before piece → (∀ span, e ≠ .missingTerminator span) →
      (∀ lexeme span, e = .invalidToken lexeme span → piece = lexeme.toList) → FaultAt cs e

theorem FaultAt.append_break {cs : List Char} {e : LexError} (h : FaultAt cs e) :
    FaultAt (cs ++ ['\n']) e := by
  cases h with
  | emptyFirst rest hcs => exact .emptyFirst (rest ++ ['\n']) (by rw [hcs]; rfl)
  | empty i hline =>
      obtain ⟨hline', hstart⟩ := Text.getElem?_lines_append_break hline
      have hfault := FaultAt.empty i hline'
      rwa [Text.spanInLine, hstart] at hfault
  | unended i before last hline =>
      obtain ⟨hline', hstart⟩ := Text.getElem?_lines_append_break hline
      have hfault := FaultAt.unended i before last hline'
      rwa [Text.spanInLine, hstart] at hfault
  | within _ i before piece after hline hlast hpiece hspan hkind hlexeme =>
      obtain ⟨hline', hstart⟩ := Text.getElem?_lines_append_break hline
      refine .within e i before piece after hline' hlast hpiece ?_ hkind hlexeme
      rw [hspan, Text.spanInLine, Text.spanInLine, hstart]

theorem faultAt_of_lineFault {cs : List Char} {i : Nat} {l : List Char} {e : LexError}
    (hi : (Text.lines cs)[i]? = some l) (hne : cs ≠ [])
    (h : LineFault i (Text.lineStart cs i) l e) : FaultAt cs e := by
  cases h with
  | emptyFirst hfirst =>
      subst hfirst
      rcases Text.line_cases hi with ⟨rest, hcs, -⟩ | ⟨hcs, -⟩
      · exact .emptyFirst rest (by simpa using hcs)
      · exact absurd (by simpa using hcs) hne
  | empty hpos => exact .empty i hi
  | unended before last hlast =>
      have hplace := FaultAt.unended i before last hi
      simpa [Text.spanInLine, Text.byteLength_append, Nat.add_assoc] using hplace
  | unclosed before inside hin hlast hodd =>
      refine .within _ i before ('"' :: inside) [] (by simpa using hi) (by simpa using hlast)
        (by simp) ?_ (by simp) (by simp)
      simp [LexError.span, Text.spanInLine, Text.byteLength_append, Nat.add_assoc]

/-- A text that cannot be split has a first line that is no statement. -/
theorem faultAt_of_splitChars {cs : List Char} {e : LexError} (h : splitChars cs = .error e) :
    FaultAt cs e := by
  have hne : cs ≠ [] := by
    rintro rfl
    rw [splitChars_nil] at h
    cases h
  rcases forall_or_exists_first IsStatement (Text.lines cs) with
    hall | ⟨before, l, after, heq, hl, hbefore⟩
  · obtain ⟨ls, hok⟩ := splitChars_of_statements hall
    rw [hok] at h
    cases h
  · have hi : (Text.lines cs)[before.length]? = some l := by simp [heq]
    have htake : (Text.lines cs).take before.length = before := by simp [heq]
    obtain ⟨e', herror, hfault⟩ := splitChars_fault hne hi hl (by rwa [htake])
    obtain rfl : e' = e := Except.error.inj (herror.symm.trans h)
    exact faultAt_of_lineFault hi hne hfault

theorem faultAt_of_run {cs : List Char} {ls : List Lexeme} (h : splitChars cs = .ok ls)
    {l : Lexeme} (hl : l ∈ ls) (hrun : l.IsRun) : FaultAt cs (.invalidToken l.text l.span) := by
  obtain ⟨before, after, heq, hspan⟩ := standsIn_of_mem_splitChars h hl
  obtain ⟨i, head, tail, hi, hplace⟩ :=
    Text.exists_line_of_piece heq (Shape.Describes.line hrun).1
  have hstatement : IsStatement (head ++ (l.text.toList ++ tail)) := by
    rcases splitChars_ok_iff.mp ⟨_, h⟩ with hempty | hall
    · have htext : l.text.toList = [] := by
        rw [hempty] at heq
        simp_all
      exact absurd htext hrun.1
    · exact hall _ (List.mem_of_getElem? hi)
  exact .within _ i head l.text.toList tail hi hstatement.1 hrun.1 (hspan.trans hplace) (by simp)
    (by simp)

theorem faultAt_of_tokenize {source : String} {e : LexError} (h : tokenize source = .error e) :
    FaultAt source.toList e := by
  cases hsplit : split source with
  | error e' =>
      obtain rfl : e' = e := by
        simpa [tokenize, Reader.ofSource, hsplit, Except.map, Except.bind] using h
      exact faultAt_of_splitChars hsplit
  | ok ls =>
      have hr := ofSource_of_split hsplit
      rw [tokenize_eq_collectFrom hr] at h
      obtain ⟨l, hl, hfault⟩ := Reader.exists_error_of_collectFrom h
      obtain ⟨hrun, rfl⟩ := isRun_of_classify_error (exists_shape_of_mem hr hl) hfault
      exact faultAt_of_run hsplit hl hrun

/-! ## Spans -/

/-- The span is a true location of `text` in `cs`: its offsets are boundaries with the text between
them, and its line and column are found by counting in what stands before it. -/
structure Span.Locates (span : Span) (cs text : List Char) : Prop where
  ordered : span.start ≤ span.stop
  inside : span.stop ≤ Text.byteLength cs
  start_boundary : Text.IsBoundary cs span.start
  stop_boundary : Text.IsBoundary cs span.stop
  covers : Text.slice? span.start span.stop cs = some text
  counted : ∃ before, Text.takeBytes? span.start cs = some before ∧
    span.line = 1 + before.count '\n' ∧ span.column = 1 + (Text.lastLine before).length

theorem Mark.locates_spanTo {cs before text after : List Char}
    (h : cs = before ++ (text ++ after)) :
    ((start before).spanTo (Text.byteLength before + Text.byteLength text)).Locates cs text := by
  have hcovers : Text.slice? (start before).position
      (Text.byteLength before + Text.byteLength text) cs = some text := by
    rw [start_position]
    exact Text.slice?_eq_some_iff.mpr ⟨before, after, h, rfl, rfl⟩
  have hsome : (Text.slice? (start before).position
      (Text.byteLength before + Text.byteLength text) cs).isSome = true := by
    rw [hcovers]
    rfl
  obtain ⟨hordered, hinside, hstart, hstop⟩ := Text.slice?_isSome_iff.mp hsome
  have hbefore : Text.takeBytes? (start before).position cs = some before := by
    rw [start_position, h]
    exact Text.takeBytes?_append before _
  exact ⟨hordered, hinside, hstart, hstop, hcovers, before, hbefore, start_line before,
    start_column before⟩

/-- Lines and columns are no more than one ahead of the characters of the text. -/
theorem Span.Locates.le_length {span : Span} {cs text : List Char} (h : span.Locates cs text) :
    span.line ≤ cs.length + 1 ∧ span.column ≤ cs.length + 1 := by
  obtain ⟨before, hbefore, hline, hcolumn⟩ := h.counted
  obtain ⟨rest, rfl, -⟩ := Text.exists_of_takeBytes? hbefore
  have hcount : before.count '\n' ≤ before.length := List.count_le_length
  have hlast := Text.length_lastLine_le before
  rw [List.length_append]
  omega

theorem Text.locates_spanInLine {cs : List Char} {i : Nat} {head piece tail : List Char}
    (h : (lines cs)[i]? = some (head ++ (piece ++ tail))) :
    (spanInLine cs i head piece).Locates cs piece ∧ '\n' ∉ piece := by
  have hline := not_mem_of_mem_lines (List.mem_of_getElem? h)
  obtain ⟨before, after, heq, hspan⟩ := exists_piece_of_line h
  rw [hspan]
  refine ⟨Mark.locates_spanTo heq, fun hmem => hline ?_⟩
  exact List.mem_append_right head (List.mem_append_left tail hmem)

theorem FaultAt.locates {cs : List Char} {e : LexError} (h : FaultAt cs e) :
    ∃ text, e.span.Locates cs text ∧
      (∀ lexeme span, e = .invalidToken lexeme span → text = lexeme.toList) ∧
      ('\n' ∈ text → cs.head? = some '\n' ∧ e = .missingTerminator ⟨0, 1, 1, 1⟩) := by
  cases h with
  | emptyFirst rest hcs =>
      have hfirst : cs = [] ++ (['\n'] ++ rest) := hcs
      exact ⟨['\n'], Mark.locates_spanTo hfirst, by simp, fun _ => ⟨by rw [hcs]; rfl, rfl⟩⟩
  | empty i hline =>
      have hempty : (Text.lines cs)[i]? = some ([] ++ ([] ++ [])) := hline
      obtain ⟨hlocates, hbreak⟩ := Text.locates_spanInLine hempty
      exact ⟨[], hlocates, by simp, fun hmem => absurd hmem hbreak⟩
  | unended i before last hline =>
      have hlast : (Text.lines cs)[i]? = some (before ++ ([last] ++ [])) := hline
      obtain ⟨hlocates, hbreak⟩ := Text.locates_spanInLine hlast
      exact ⟨[last], hlocates, by simp, fun hmem => absurd hmem hbreak⟩
  | within _ i before piece after hline hlast hpiece hspan hkind hlexeme =>
      obtain ⟨hlocates, hbreak⟩ := Text.locates_spanInLine hline
      rw [← hspan] at hlocates
      exact ⟨piece, hlocates, hlexeme, fun hmem => absurd hmem hbreak⟩

/-- The spans of lexemes and of faults are true locations, of a lexeme that of its text. What they
cover is on one line, but for the line break that is all of an empty first line. With fewer than
`2 ^ 32 - 1` characters their lines and columns are numbers of 32 bits. -/
theorem spans_locate (source : String) :
    (∀ ls, split source = .ok ls → ∀ l ∈ ls,
      l.span.Locates source.toList l.text.toList ∧ '\n' ∉ l.text.toList) ∧
    (∀ e, tokenize source = .error e → ∃ text, e.span.Locates source.toList text ∧
      (∀ lexeme span, e = .invalidToken lexeme span → text = lexeme.toList) ∧
      ('\n' ∈ text →
        source.toList.head? = some '\n' ∧ e = .missingTerminator ⟨0, 1, 1, 1⟩)) ∧
    (source.length < 2 ^ 32 - 1 → ∀ (span : Span) text, span.Locates source.toList text →
      span.line < 2 ^ 32 ∧ span.column < 2 ^ 32) := by
  refine ⟨?_, ?_, ?_⟩
  · intro ls hls l hl
    obtain ⟨before, after, heq, hspan⟩ := standsIn_of_mem_splitChars hls hl
    obtain ⟨⟨shape, hshape⟩, -⟩ := (splitChars_tiles hls).exists_of_mem hl
    rw [hspan]
    exact ⟨Mark.locates_spanTo heq, hshape.line.1⟩
  · intro e he
    exact (faultAt_of_tokenize he).locates
  · intro hlength span text hlocates
    obtain ⟨hline, hcolumn⟩ := hlocates.le_length
    rw [String.length_toList] at hline hcolumn
    omega

theorem spans_locate_second_line :
    let source := "é;\n\"\t\"_y;"
    let span : Span := ⟨7, 9, 2, 4⟩
    (∃ ls, split source = .ok ls ∧ ⟨"_y", span⟩ ∈ ls) ∧
    tokenize source = .error (.invalidToken "_y" span) ∧
    span.Locates source.toList "_y".toList ∧ span.line < 2 ^ 32 ∧ span.column < 2 ^ 32 ∧
    tokenize "\né" = .error (.missingTerminator ⟨0, 1, 1, 1⟩) ∧
    Span.Locates ⟨0, 1, 1, 1⟩ "\né".toList ['\n'] := by
  intro source span
  have hsplit : split source = .ok [⟨"é", ⟨0, 2, 1, 1⟩⟩, ⟨";", ⟨2, 3, 1, 2⟩⟩,
      ⟨"\"\t\"", ⟨4, 7, 2, 1⟩⟩, ⟨"_y", span⟩, ⟨";", ⟨9, 10, 2, 6⟩⟩] := by decide +kernel
  have hfault : tokenize source = .error (.invalidToken "_y" span) := by decide +kernel
  have hfirst : tokenize "\né" = .error (.missingTerminator ⟨0, 1, 1, 1⟩) := by rfl
  obtain ⟨hlexemes, hfaults, hcounters⟩ := spans_locate source
  have hlexeme := (hlexemes _ hsplit ⟨"_y", span⟩ (by simp)).1
  obtain ⟨text, hlocates, htext, -⟩ := hfaults _ hfault
  rw [htext "_y" span rfl] at hlocates
  obtain ⟨hline, hcolumn⟩ := hcounters (by decide) span _ hlexeme
  obtain ⟨first, hlocatesFirst, -, -⟩ := (spans_locate "\né").2.1 _ hfirst
  obtain rfl : ['\n'] = first := Option.some.inj hlocatesFirst.covers
  exact ⟨⟨_, hsplit, by simp⟩, hfault, hlocates, hline, hcolumn, hfirst, hlocatesFirst⟩

end StatementLexer
