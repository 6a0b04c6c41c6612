import StatementLexer.Token.Basic

/-! # Tallies

How many tokens of each kind a list holds, the kinds in the order of their first appearance.
-/

namespace StatementLexer

abbrev Tally := List (TokenKind × Nat)

namespace Tally

/-- Counts `n` more of a kind; a kind not seen before comes last. -/
def add (kind : TokenKind) (n : Nat) : Tally → Tally
  | [] => [(kind, n)]
  | (k, m) :: rest => if k = kind then (k, m + n) :: rest else (k, m) :: add kind n rest

def ofTokens (tokens : List Token) : Tally :=
  tokens.foldl (fun tally t => tally.add t.kind 1) []

def count (kind : TokenKind) (tally : Tally) : Nat :=
  ((tally.find? (·.1 = kind)).map (·.2)).getD 0

end Tally

end StatementLexer
