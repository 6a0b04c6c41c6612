/-! # Ranges of code points

Character properties are tables of closed ranges, in increasing order.
-/

namespace StatementLexer.Text

/-- A closed range of code points, first and last. -/
abbrev CharRange := Nat × Nat

def CharRange.contains (r : CharRange) (c : Char) : Bool :=
  r.1 ≤ c.toNat && c.toNat ≤ r.2

def inRanges (table : List CharRange) (c : Char) : Bool :=
  table.any (·.contains c)

theorem inRanges_iff {table : List CharRange} {c : Char} :
    inRanges table c = true ↔ ∃ r ∈ table, r.1 ≤ c.toNat ∧ c.toNat ≤ r.2 := by
  simp [inRanges, CharRange.contains]

end StatementLexer.Text
