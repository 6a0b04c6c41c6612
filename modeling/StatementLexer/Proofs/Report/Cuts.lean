import StatementLexer.Proofs.Lexeme.Offsets
import StatementLexer.Proofs.Report.FinalBreak
import StatementLexer.Proofs.Token.Pull

/-! # Every cut succeeds

Lexemes are cut out of the text, the quotes are cut off a string, and a message cuts a line and the
place of the fault out of the file. All of these cuts are made at byte offsets, and a text can be cut
only between its characters. Main statement: `every_cut_succeeds`.
-/

namespace StatementLexer

theorem exists_of_isQuoted {cs : List Char} (h : TokenRule.isQuoted cs = true) :
    ∃ body, cs = '"' :: (body ++ ['"']) := by
  simp only [TokenRule.isQuoted, Bool.and_eq_true, decide_eq_true_eq, beq_iff_eq] at h
  obtain ⟨⟨hlength, hhead⟩, hlast⟩ := h
  obtain ⟨rest, rfl⟩ := List.head?_eq_some_iff.mp hhead
  obtain ⟨init, hinit⟩ := List.getLast?_eq_some_iff.mp hlast
  cases init with
  | nil =>
      rw [hinit] at hlength
      exact absurd hlength (by decide)
  | cons c body =>
      rw [List.cons_append] at hinit
      obtain ⟨rfl, rfl⟩ := List.cons.inj hinit
      exact ⟨body, rfl⟩

/-- Cutting the first and the last byte off a quoted text leaves what the string says. -/
theorem cut_quotes {l : Lexeme} (h : TokenRule.isQuoted l.text.toList = true) :
    ∃ body, Text.cut l.text.toList 1 (Text.byteLength l.text.toList - 1) = .ok body ∧
      l.classify = .ok (.string (String.ofList body)) := by
  obtain ⟨body, htext⟩ := exists_of_isQuoted h
  refine ⟨body, ?_, classify_quoted htext⟩
  have hlength : Text.byteLength l.text.toList - 1 =
      Text.byteLength ['"'] + Text.byteLength body := by
    have hquote : Text.byteLength ['"'] = 1 := rfl
    rw [htext, ← List.singleton_append, Text.byteLength_append, Text.byteLength_append]
    omega
  rw [hlength, htext]
  exact Text.cut_append ['"'] body ['"']

namespace SourceFile

variable {file : SourceFile}

theorem range_eq_ok_iff {start stop : Nat} {text : List Char} :
    file.range start stop = .ok (String.ofList text) ↔
      Text.cut file.content.toList start stop = .ok text := by
  rw [Text.cut_eq_ok_iff]
  unfold range
  by_cases horder : stop < start
  · have hnone : Text.slice? start stop file.content.toList = none := by
      rw [Text.slice?, if_neg (by omega)]
    simp [horder, hnone]
  · rw [if_neg horder]
    cases Text.slice? start stop file.content.toList <;> simp [String.ofList_inj]

/-- Each line is cut out between where it starts and where the next one does. -/
theorem cut_line {i start : Nat} (h : file.lineStarts[i]? = some start) :
    ∃ text, Text.cut file.content.toList start (file.lineStarts[i + 1]?.getD file.length) = .ok text ∧
      file.line (i + 1) = .ok (String.ofList (trimBreaks text)) := by
  have hlt : i < (Text.lines file.content.toList).length := by
    rw [getElem?_lineStarts] at h
    by_contra hge
    simp [hge] at h
  have hline := line_of_getElem? (List.getElem?_eq_getElem hlt)
  unfold line at hline ⊢
  simp only [h] at hline ⊢
  cases hrange : file.range start (file.lineStarts[i + 1]?.getD file.length) with
  | error e => simp [hrange, Except.map] at hline
  | ok text =>
      rw [← String.ofList_toList (s := text)] at hrange
      exact ⟨text.toList, range_eq_ok_iff.mp hrange, rfl⟩

theorem exists_lineStart_of_locates {span : Span} {text : List Char}
    (h : span.Locates file.content.toList text) :
    ∃ i start, span.line = i + 1 ∧ file.lineStarts[i]? = some start := by
  obtain ⟨i, l, hnumber, hline⟩ := h.exists_line
  obtain ⟨hlt, -⟩ := List.getElem?_eq_some_iff.mp hline
  refine ⟨i, Text.lineStart file.content.toList i, hnumber, ?_⟩
  rw [getElem?_lineStarts, if_pos hlt]

end SourceFile

/-- A text can be cut exactly between boundaries in order, and no cut that is made fails. The pass on
offsets ends after no more rounds than there are characters, with what splitting gives; each quoted
lexeme gives the text between its quotes; each line of a file can be cut out, and so can the line and
the place of its fault. However a reader is used, neither it nor a copy of it counts past the end of
its lexemes. -/
theorem every_cut_succeeds (source : String) (file : SourceFile) :
    (∀ cs start stop, (∃ text, Text.cut cs start stop = .ok text) ↔
      start ≤ stop ∧ stop ≤ Text.byteLength cs ∧
        Text.IsBoundary cs start ∧ Text.IsBoundary cs stop) ∧
    (∀ rounds, source.length ≤ rounds →
      Passage.runFor source.toList rounds Passage.initial =
        some ((split source).mapError Halt.fault)) ∧
    (∀ l : Lexeme, TokenRule.isQuoted l.text.toList = true →
      ∃ body, Text.cut l.text.toList 1 (Text.byteLength l.text.toList - 1) = .ok body ∧
        l.classify = .ok (.string (String.ofList body))) ∧
    (∀ i start, file.lineStarts[i]? = some start →
      ∃ text, Text.cut file.content.toList start
          (file.lineStarts[i + 1]?.getD file.length) = .ok text ∧
        file.line (i + 1) = .ok (String.ofList (SourceFile.trimBreaks text))) ∧
    (∀ e, file.tokens = .error e →
      let span := e.diagnostic.span
      (∃ i start, span.line = i + 1 ∧ file.lineStarts[i]? = some start) ∧
      ∃ text, Text.cut file.content.toList span.start span.stop = .ok text ∧
        file.range span.start span.stop = .ok (String.ofList text)) ∧
    (∀ r, Reader.ofSource source = .ok r → ∀ ops,
      let results := r.unread.map Lexeme.classify
      let bookmark := (Bookmark.run source results ⟨0, []⟩ ops).2
      let desk := (Desk.run ⟨r, []⟩ ops).2
      bookmark.index ≤ results.length ∧ (∀ i ∈ bookmark.saved, i ≤ results.length) ∧
      desk.reader.remaining = results.length - bookmark.index ∧
      ∀ s ∈ desk.reader :: desk.saved, s.current ≤ s.lexemes.length) := by
  refine ⟨fun _ _ _ => Text.exists_cut_iff, fun _ => Passage.runFor_initial source,
    fun _ => cut_quotes, fun _ _ => SourceFile.cut_line, ?_, ?_⟩
  · intro e he span
    obtain ⟨text, hlocates, -⟩ := (SourceFile.faultAt_of_tokens he).locates
    rw [← LexError.diagnostic_span] at hlocates
    have hcut := Text.cut_eq_ok_iff.mpr hlocates.covers
    exact ⟨SourceFile.exists_lineStart_of_locates hlocates, text, hcut,
      SourceFile.range_eq_ok_iff.mpr hcut⟩
  · intro r hr ops results bookmark desk
    have hfollows := ((Desk.follows_of_ofSource hr).run ops).2
    exact ⟨hfollows.reader.le, hfollows.saved_le, hfollows.reader.remaining_eq,
      hfollows.current_le⟩

theorem every_cut_succeeds_wide_characters :
    let source := "é=\"ü\";"
    let lexemes : List Lexeme := [⟨"é", ⟨0, 2, 1, 1⟩⟩, ⟨"=", ⟨2, 3, 1, 2⟩⟩,
      ⟨"\"ü\"", ⟨3, 7, 1, 3⟩⟩, ⟨";", ⟨7, 8, 1, 6⟩⟩]
    let file : SourceFile := ⟨"a.math", "é;\n\"ü;\n"⟩
    Passage.runFor source.toList 6 Passage.initial = some (.ok lexemes) ∧
    (¬ ∃ text, Text.cut source.toList 1 2 = .ok text) ∧
    Lexeme.classify ⟨"\"ü\"", ⟨3, 7, 1, 3⟩⟩ = .ok (.string "ü") ∧
    file.line 2 = .ok "\"ü;" ∧ file.tokens = .error (.unterminatedQuote ⟨4, 8, 2, 1⟩) ∧
    file.range 4 8 = .ok "\"ü;" ∧
    (Desk.run ⟨⟨source, lexemes, 0⟩, []⟩ [.next, .save, .nth 9]).2.reader.remaining = 0 := by
  intro source lexemes file
  have hsplit : split source = .ok lexemes := by decide +kernel
  have hsource : Reader.ofSource source = .ok ⟨source, lexemes, 0⟩ := ofSource_of_split hsplit
  have hfile : file.tokens = .error (.unterminatedQuote ⟨4, 8, 2, 1⟩) := by decide +kernel
  obtain ⟨hcut, hrun, hquoted, hline, hfault, hreader⟩ := every_cut_succeeds source file
  refine ⟨?_, ?_, ?_, ?_, hfile, ?_, ?_⟩
  · rw [hrun 6 (by decide), hsplit]
    rfl
  · rw [hcut]
    decide
  · obtain ⟨body, hbody, htoken⟩ := hquoted ⟨"\"ü\"", ⟨3, 7, 1, 3⟩⟩ (by decide)
    obtain rfl : ['ü'] = body := Except.ok.inj hbody
    exact htoken
  · have hsecond : Text.cut file.content.toList 4 (file.lineStarts[2]?.getD file.length) =
        .ok "\"ü;\n".toList := by decide +kernel
    obtain ⟨text, htext, hline⟩ := hline 1 4 (by decide +kernel)
    obtain rfl : "\"ü;\n".toList = text := Except.ok.inj (hsecond.symm.trans htext)
    exact hline
  · have hopened : Text.cut file.content.toList 4 8 = .ok "\"ü;".toList := by decide +kernel
    obtain ⟨-, text, htext, hrange⟩ := hfault _ hfile
    obtain rfl : "\"ü;".toList = text := Except.ok.inj (hopened.symm.trans htext)
    exact hrange
  · rw [(hreader _ hsource [.next, .save, .nth 9]).2.2.1]
    decide

end StatementLexer
