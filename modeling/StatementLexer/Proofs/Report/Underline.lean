import Mathlib.Data.List.TakeWhile
import StatementLexer.Proofs.Token.Fault

/-! # What a message underlines

The fault of a file is found in its statements, with a mark that counts lines and columns, and it is
shown against the whole file, with an index of byte offsets. Both agree: the snippet of the message
is the line of the fault, and the carets stand under the text that its span covers. Only the end of
a line has nothing to underline. Main statement: `snippet_underlines_fault`.
-/

namespace StatementLexer

/-! ## The statements of a file -/

namespace SourceFile

variable (file : SourceFile)

theorem content_eq_statements_append :
    ∃ last, file.content.toList = file.statements.toList ++ last ∧ (last = [] ∨ last = ['\n']) := by
  unfold statements
  by_cases hlast : file.content.toList.getLast? = some '\n'
  · obtain ⟨init, hinit⟩ := List.getLast?_eq_some_iff.mp hlast
    refine ⟨['\n'], ?_, .inr rfl⟩
    simp [hinit]
  · exact ⟨[], by simp [hlast], .inl rfl⟩

variable {file}

/-- The fault of a file stands in its statements, and so at the same place of the whole text. -/
theorem faultAt_of_tokens {e : LexError} (h : file.tokens = .error e) :
    FaultAt file.content.toList e := by
  have hfault : FaultAt file.statements.toList e := faultAt_of_tokenize h
  obtain ⟨last, heq, rfl | rfl⟩ := file.content_eq_statements_append
  · rwa [heq, List.append_nil]
  · rw [heq]
    exact hfault.append_break

end SourceFile

/-! ## The snippet of a message -/

def Snippet.underlined (s : Snippet) : List Char :=
  (s.line.toList.drop (s.startColumn - 1)).take (s.stopColumn - s.startColumn)

namespace Diagnostic

theorem firstLine_of_not_mem {cs : List Char} (h : '\n' ∉ cs) : firstLine cs = cs := by
  have htake : cs.takeWhile (· != '\n') = cs := by
    rw [List.takeWhile_eq_self_iff]
    intro c hc
    have hne : c ≠ '\n' := fun heq => h (heq ▸ hc)
    simpa using hne
  simp [firstLine, htake]

theorem spanWidth_eq {d : Diagnostic} {file : SourceFile} {text : List Char}
    (h : file.range d.span.start d.span.stop = .ok (String.ofList text)) :
    d.spanWidth file = (firstLine text).length := by
  simp [spanWidth, h]

/-- A message about a piece of a line shows that line, from the column of the piece on. -/
theorem snippet?_eq {d : Diagnostic} {file : SourceFile} {i : Nat} {l text : List Char}
    (hline : (Text.lines file.content.toList)[i]? = some l) (hspan : d.span.line = i + 1)
    (hrange : file.range d.span.start d.span.stop = .ok (String.ofList text)) :
    d.snippet? file = some ⟨String.ofList (SourceFile.trimBreaks l), i + 1, d.span.column,
      d.span.column + max 1 (firstLine text).length, d.label⟩ := by
  unfold snippet?
  rw [hspan, SourceFile.line_of_getElem? hline, spanWidth_eq hrange]

end Diagnostic

theorem SourceFile.range_spanInLine {file : SourceFile} {i : Nat} {before piece after : List Char}
    (h : (Text.lines file.content.toList)[i]? = some (before ++ (piece ++ after))) :
    file.range (Text.spanInLine file.content.toList i before piece).start
      (Text.spanInLine file.content.toList i before piece).stop = .ok (String.ofList piece) := by
  obtain ⟨rest, heq, -⟩ := Text.eq_of_getElem?_lines h
  have hcontent : file.content.toList =
      (Text.broken ((Text.lines file.content.toList).take i) ++ before) ++
        (piece ++ (after ++ rest)) := by
    simpa using heq
  have hrange := range_eq_ok hcontent
  rw [Text.byteLength_append] at hrange
  exact hrange

@[simp] theorem LexError.diagnostic_span (e : LexError) : e.diagnostic.span = e.span := by
  cases e <;> rfl

/-- A message about a piece of a line covers that piece and shows the line. -/
theorem snippet?_of_spanInLine {file : SourceFile} {e : LexError} {i : Nat}
    {before piece after : List Char}
    (hline : (Text.lines file.content.toList)[i]? = some (before ++ (piece ++ after)))
    (hspan : e.span = Text.spanInLine file.content.toList i before piece) :
    file.range e.span.start e.span.stop = .ok (String.ofList piece) ∧
    e.diagnostic.snippet? file = some
      ⟨String.ofList (SourceFile.trimBreaks (before ++ (piece ++ after))), i + 1, before.length + 1,
        before.length + 1 + max 1 piece.length, e.diagnostic.label⟩ := by
  have hrange : file.range e.span.start e.span.stop = .ok (String.ofList piece) := by
    rw [hspan]
    exact SourceFile.range_spanInLine hline
  have hbreak : '\n' ∉ piece := by
    have hwhole := Text.not_mem_of_mem_lines (List.mem_of_getElem? hline)
    intro hmem
    exact hwhole (by simp [hmem])
  have hnumber : e.diagnostic.span.line = i + 1 := by rw [LexError.diagnostic_span, hspan]; rfl
  have hcolumn : e.diagnostic.span.column = before.length + 1 := by
    rw [LexError.diagnostic_span, hspan]
    rfl
  have hsnippet := Diagnostic.snippet?_eq hline hnumber
    (by rwa [LexError.diagnostic_span] : file.range _ _ = .ok (String.ofList piece))
  rw [hcolumn, Diagnostic.firstLine_of_not_mem hbreak] at hsnippet
  exact ⟨hrange, hsnippet⟩

namespace Snippet

/-- In a line that ends with a visible character the piece itself is underlined. -/
theorem underlined_piece {before piece after : List Char} (hpiece : piece ≠ [])
    (htrim : SourceFile.trimBreaks (before ++ (piece ++ after)) = before ++ (piece ++ after))
    (n : Nat) (label : Option String) :
    underlined ⟨String.ofList (SourceFile.trimBreaks (before ++ (piece ++ after))), n,
      before.length + 1, before.length + 1 + max 1 piece.length, label⟩ = piece := by
  have hwidth : before.length + 1 + max 1 piece.length - (before.length + 1) = piece.length := by
    have := List.length_pos_iff.mpr hpiece
    omega
  unfold underlined
  rw [htrim, hwidth]
  simp

/-- A carriage return at the end of a line is trimmed, so the carets stand behind the line. -/
theorem underlined_return (before : List Char) (n stop : Nat) (label : Option String) :
    underlined ⟨String.ofList (SourceFile.trimBreaks (before ++ ['\r'])), n, before.length + 1, stop,
      label⟩ = [] := by
  have hdrop : (SourceFile.trimBreaks before).drop before.length = [] :=
    List.drop_eq_nil_of_le (SourceFile.length_trimBreaks_le before)
  unfold underlined
  rw [SourceFile.trimBreaks_append_return, String.toList_ofList, Nat.add_sub_cancel, hdrop,
    List.take_nil]

end Snippet

/-- A terminator is missed where the line has no character to show for it: the line is empty, or its
last character is a carriage return. -/
def LexError.AtLineEnd (file : SourceFile) (e : LexError) : Prop :=
  ∃ span, e = .missingTerminator span ∧ (file.range span.start span.stop = .ok "\r" ∨
    (Text.lines file.content.toList)[span.line - 1]? = some [])

theorem LexError.atLineEnd_unended_iff {file : SourceFile} {i : Nat} {before : List Char}
    {last : Char} (hline : (Text.lines file.content.toList)[i]? = some (before ++ ([last] ++ []))) :
    (missingTerminator (Text.spanInLine file.content.toList i before [last])).AtLineEnd file ↔
      last = '\r' := by
  have hrange := SourceFile.range_spanInLine hline
  constructor
  · rintro ⟨span, hspan, hreturn | hempty⟩
    · cases hspan
      rw [hrange] at hreturn
      have htext : String.ofList [last] = "\r" := Except.ok.inj hreturn
      have hchars := congrArg String.toList htext
      simpa using hchars
    · cases hspan
      have hsame : (Text.lines file.content.toList)[i]? = some [] := hempty
      rw [hline] at hsame
      simp at hsame
  · rintro rfl
    exact ⟨_, rfl, .inl hrange⟩

/-- The message about the fault of a file has a snippet on the line and column of the fault, as wide
as the text that the fault covers. The characters underlined are that text, or none at the end of a
line. -/
theorem snippet_underlines_fault (file : SourceFile) (e : LexError) (h : file.tokens = .error e) :
    ∃ snippet text, e.diagnostic.snippet? file = some snippet ∧
      file.range e.span.start e.span.stop = .ok text ∧
      snippet.lineNumber = e.span.line ∧ snippet.startColumn = e.span.column ∧
      1 ≤ snippet.startColumn ∧ snippet.stopColumn = snippet.startColumn + max 1 text.length ∧
      (e.AtLineEnd file → snippet.underlined = []) ∧
      (¬ e.AtLineEnd file → snippet.underlined = text.toList) := by
  cases SourceFile.faultAt_of_tokens h with
  | emptyFirst rest hcontent =>
      have hline : (Text.lines file.content.toList)[0]? = some [] := by
        have hlines := Text.lines_append_break [] rest
        rw [List.nil_append, ← hcontent] at hlines
        rw [hlines]
        rfl
      have hsplit : file.content.toList = [] ++ (['\n'] ++ rest) := hcontent
      have hrange : file.range 0 1 = .ok (String.ofList ['\n']) := SourceFile.range_eq_ok hsplit
      have hsnippet := Diagnostic.snippet?_eq (d := (LexError.missingTerminator
        ⟨0, 1, 1, 1⟩).diagnostic) hline rfl hrange
      exact ⟨_, _, hsnippet, hrange, rfl, rfl, Nat.le_refl 1, rfl, fun _ => rfl,
        fun hend => absurd ⟨_, rfl, .inr hline⟩ hend⟩
  | empty i hline =>
      have hempty : (Text.lines file.content.toList)[i]? = some ([] ++ ([] ++ [])) := hline
      obtain ⟨hrange, hsnippet⟩ := snippet?_of_spanInLine (e := .missingTerminator _) hempty rfl
      exact ⟨_, _, hsnippet, hrange, rfl, rfl, Nat.le_refl 1, rfl, fun _ => rfl,
        fun hend => absurd ⟨_, rfl, .inr hline⟩ hend⟩
  | unended i before last hline =>
      have hwhole : (Text.lines file.content.toList)[i]? = some (before ++ ([last] ++ [])) := hline
      obtain ⟨hrange, hsnippet⟩ := snippet?_of_spanInLine (e := .missingTerminator _) hwhole rfl
      have hend := LexError.atLineEnd_unended_iff hwhole
      refine ⟨_, _, hsnippet, hrange, rfl, rfl, Nat.le_add_left 1 _, by simp, ?_, ?_⟩
      · intro hatEnd
        obtain rfl := hend.mp hatEnd
        exact Snippet.underlined_return before _ _ _
      · intro hnotEnd
        have hreturn : last ≠ '\r' := fun heq => hnotEnd (hend.mpr heq)
        have hbreak : last ≠ '\n' := by
          have hmem := Text.not_mem_of_mem_lines (List.mem_of_getElem? hline)
          rintro rfl
          exact hmem (by simp)
        have htrim := SourceFile.trimBreaks_concat before hbreak hreturn
        rw [Snippet.underlined_piece (List.cons_ne_nil last []) htrim, String.toList_ofList]
  | within _ i before piece after hline hlast hpiece hspan hkind =>
      obtain ⟨hrange, hsnippet⟩ := snippet?_of_spanInLine hline hspan
      have htrim : SourceFile.trimBreaks (before ++ (piece ++ after)) =
          before ++ (piece ++ after) := by
        obtain ⟨init, hinit⟩ := List.getLast?_eq_some_iff.mp hlast
        rw [hinit]
        exact SourceFile.trimBreaks_concat init (by decide) (by decide)
      refine ⟨_, _, hsnippet, hrange, by rw [hspan]; rfl, by rw [hspan]; rfl,
        Nat.le_add_left 1 _, by simp, ?_, ?_⟩
      · rintro ⟨span, rfl, -⟩
        exact absurd rfl (hkind span)
      · intro _
        rw [Snippet.underlined_piece hpiece htrim, String.toList_ofList]

theorem snippet_underlines_fault_second_line :
    (∃ snippet, (LexError.invalidToken "5.0.1" ⟨10, 15, 2, 7⟩).diagnostic.snippet?
        ⟨"main.math", "x;\né \"t\" 5.0.1;\n"⟩ = some snippet ∧ snippet.lineNumber = 2 ∧
      snippet.startColumn = 7 ∧ snippet.underlined = "5.0.1".toList) ∧
    ∃ snippet, (LexError.missingTerminator ⟨6, 7, 2, 3⟩).diagnostic.snippet?
        ⟨"main.math", "x;\nyé\r\n"⟩ = some snippet ∧ snippet.lineNumber = 2 ∧
      snippet.startColumn = 3 ∧ snippet.underlined = [] := by
  constructor
  · obtain ⟨snippet, text, hsnippet, hrange, hnumber, hcolumn, -, -, -, hunderlined⟩ :=
      snippet_underlines_fault ⟨"main.math", "x;\né \"t\" 5.0.1;\n"⟩
        (.invalidToken "5.0.1" ⟨10, 15, 2, 7⟩) (by decide +kernel)
    obtain rfl : "5.0.1" = text := Except.ok.inj hrange
    refine ⟨snippet, hsnippet, hnumber, hcolumn, hunderlined ?_⟩
    rintro ⟨span, hspan, -⟩
    cases hspan
  · obtain ⟨snippet, text, hsnippet, hrange, hnumber, hcolumn, -, -, hend, -⟩ :=
      snippet_underlines_fault ⟨"main.math", "x;\nyé\r\n"⟩ (.missingTerminator ⟨6, 7, 2, 3⟩) rfl
    exact ⟨snippet, hsnippet, hnumber, hcolumn, hend ⟨_, rfl, .inl rfl⟩⟩

end StatementLexer
