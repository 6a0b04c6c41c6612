import StatementLexer.Proofs.Report.Underline

/-! # The line break at the end of a file

One line break at the end of a file ends its last statement and is not seen otherwise: the tokens or
the fault are the same without it, and so is the message, although it is shown against a text that
has one more line. A second line break leaves an empty line, which is no statement. Main statement:
`final_break_invisible`.
-/

namespace StatementLexer

/-! ## The text with one more line -/

theorem SourceFile.content_toList_append_break (name content : String) :
    (SourceFile.mk name (content ++ "\n")).content.toList = content.toList ++ ['\n'] := by
  rw [String.toList_append]
  rfl

namespace Span.Locates

variable {span : Span} {content : String} {text : List Char}

theorem exists_line (h : span.Locates content.toList text) :
    ∃ i l, span.line = i + 1 ∧ (Text.lines content.toList)[i]? = some l := by
  obtain ⟨before, hbefore, hline, -⟩ := h.counted
  obtain ⟨rest, hcontent, -⟩ := Text.exists_of_takeBytes? hbefore
  have hlt : before.count '\n' < (Text.lines content.toList).length := by
    rw [Text.length_lines, hcontent, List.count_append]
    omega
  exact ⟨_, _, by omega, List.getElem?_eq_getElem hlt⟩

theorem range_append_break (h : span.Locates content.toList text) (name : String) :
    SourceFile.range ⟨name, content⟩ span.start span.stop = .ok (String.ofList text) ∧
      SourceFile.range ⟨name, content ++ "\n"⟩ span.start span.stop = .ok (String.ofList text) := by
  obtain ⟨before, after, hcontent, hstart, hstop⟩ := Text.slice?_eq_some_iff.mp h.covers
  rw [← hstart, ← hstop]
  constructor
  · exact SourceFile.range_eq_ok hcontent
  · have hlonger : (SourceFile.mk name (content ++ "\n")).content.toList =
        before ++ (text ++ (after ++ ['\n'])) := by
      rw [SourceFile.content_toList_append_break, hcontent]
      simp
    exact SourceFile.range_eq_ok hlonger

theorem line_append_break (h : span.Locates content.toList text) (name : String) :
    SourceFile.line ⟨name, content ++ "\n"⟩ span.line = SourceFile.line ⟨name, content⟩ span.line := by
  obtain ⟨i, l, hnumber, hline⟩ := h.exists_line
  have hlonger : (Text.lines (SourceFile.mk name (content ++ "\n")).content.toList)[i]? =
      some l := by
    rw [SourceFile.content_toList_append_break]
    exact (Text.getElem?_lines_append_break hline).1
  rw [hnumber, SourceFile.line_of_getElem? hlonger,
    SourceFile.line_of_getElem? (f := ⟨name, content⟩) hline]

end Span.Locates

/-- A message about a place of a text looks the same with one more line break behind the text. -/
theorem Diagnostic.render_append_break {d : Diagnostic} {content : String} {text : List Char}
    (h : d.span.Locates content.toList text) (name : String) :
    d.render ⟨name, content ++ "\n"⟩ = d.render ⟨name, content⟩ := by
  obtain ⟨hrange, hrange'⟩ := h.range_append_break name
  have hsnippet : d.snippet? ⟨name, content ++ "\n"⟩ = d.snippet? ⟨name, content⟩ := by
    unfold snippet?
    rw [h.line_append_break, spanWidth_eq hrange, spanWidth_eq hrange']
  simp only [render, hsnippet]

/-! ## The statements of a file -/

namespace SourceFile

theorem statements_append_break (name content : String) :
    statements ⟨name, content ++ "\n"⟩ = content := by
  simp [statements]

theorem statements_of_unbroken {content : String} (h : content.toList.getLast? ≠ some '\n')
    (name : String) : statements ⟨name, content⟩ = content := by
  simp [statements, h]

theorem tokens_append_break (name : String) {content : String}
    (h : content.toList.getLast? ≠ some '\n') :
    tokens ⟨name, content ++ "\n"⟩ = tokens ⟨name, content⟩ := by
  rw [tokens, tokens, statements_append_break, statements_of_unbroken h]

/-- An empty line at the end is no statement, whatever stands before it. -/
theorem exists_fault_of_empty_line (name : String) {content : String}
    (h : content.toList.getLast? = some '\n') :
    ∃ e, tokens ⟨name, content ++ "\n"⟩ = .error e := by
  rw [tokens, statements_append_break]
  cases htokens : tokenize content with
  | error e => exact ⟨e, rfl⟩
  | ok ts =>
      obtain ⟨init, hinit⟩ := List.getLast?_eq_some_iff.mp h
      have hempty : [] ∈ Text.lines content.toList := by
        rw [hinit, Text.lines_append_break]
        simp [Text.lines]
      obtain ⟨ls, hls⟩ := exists_split_of_tokenize htokens
      rcases splitChars_ok_iff.mp ⟨ls, hls⟩ with hnil | hall
      · simp [hnil] at h
      · exact absurd rfl (hall [] hempty).ne_nil

end SourceFile

/-- A line break at the end of a file that has none changes neither its tokens nor its fault, and
the message is rendered to the same text. At the end of a file that has one it is a fault. -/
theorem final_break_invisible (name content : String) :
    (content.toList.getLast? ≠ some '\n' →
      SourceFile.tokens ⟨name, content ++ "\n"⟩ = SourceFile.tokens ⟨name, content⟩ ∧
      ∀ e, SourceFile.tokens ⟨name, content⟩ = .error e →
        e.diagnostic.render ⟨name, content ++ "\n"⟩ = e.diagnostic.render ⟨name, content⟩) ∧
    (content.toList.getLast? = some '\n' →
      ∃ e, SourceFile.tokens ⟨name, content ++ "\n"⟩ = .error e) := by
  constructor
  · intro h
    refine ⟨SourceFile.tokens_append_break name h, fun e he => ?_⟩
    rw [SourceFile.tokens, SourceFile.statements_of_unbroken h] at he
    obtain ⟨text, hlocates, -⟩ := (faultAt_of_tokenize he).locates
    rw [← LexError.diagnostic_span] at hlocates
    exact Diagnostic.render_append_break hlocates name
  · exact SourceFile.exists_fault_of_empty_line name

theorem final_break_invisible_last_character :
    let e : LexError := .missingTerminator ⟨4, 6, 2, 2⟩
    SourceFile.tokens ⟨"a.math", "x;\nyé"⟩ = .error e ∧
    SourceFile.tokens ⟨"a.math", "x;\nyé\n"⟩ = .error e ∧
    e.diagnostic.render ⟨"a.math", "x;\nyé\n"⟩ = e.diagnostic.render ⟨"a.math", "x;\nyé"⟩ ∧
    ∃ e, SourceFile.tokens ⟨"a.math", "x;\n\n"⟩ = .error e := by
  intro e
  have hfault : SourceFile.tokens ⟨"a.math", "x;\nyé"⟩ = .error e := by rfl
  obtain ⟨htokens, hrender⟩ := (final_break_invisible "a.math" "x;\nyé").1 (by decide)
  exact ⟨hfault, htokens.trans hfault, hrender e hfault,
    (final_break_invisible "a.math" "x;\n").2 (by decide)⟩

end StatementLexer
