import StatementLexer.Report.Diagnostic

/-! # Lexemes

The pieces of a source text before their meaning is known, and the reasons why a text has none.
-/

namespace StatementLexer

structure Lexeme where
  text : String
  span : Span
  deriving DecidableEq, Repr

/-- Why a text cannot be split, or a lexeme is no token. -/
inductive LexError where
  /-- A line does not end with the terminator. -/
  | missingTerminator (span : Span)
  /-- A string is still open where its line ends. -/
  | unterminatedQuote (span : Span)
  /-- A lexeme is neither a string, a number, a symbol nor a name. -/
  | invalidToken (lexeme : String) (span : Span)
  deriving DecidableEq, Repr

namespace LexError

def span : LexError → Span
  | missingTerminator s => s
  | unterminatedQuote s => s
  | invalidToken _ s => s

def message : LexError → String
  | missingTerminator _ => "Invalid end of statement"
  | unterminatedQuote _ => "Invalid input."
  | invalidToken .. => "Invalid input."

def code : LexError → Code
  | missingTerminator _ => .missingTerminator
  | unterminatedQuote _ => .unterminatedString
  | invalidToken .. => .invalidToken

/-- Whether the fault is in the division into statements, not in a single lexeme. -/
def concernsStatement : LexError → Bool
  | invalidToken .. => false
  | _ => true

def diagnostic (e : LexError) : Diagnostic :=
  let base := (Diagnostic.error e.message).withCode e.code |>.withSpan e.span
  match e with
  | missingTerminator _ =>
      base.withLabel "expected `;`"
        |>.withNote "every line must end with `;` immediately before the line break"
        |>.withHelp "end the statement with `;`"
  | unterminatedQuote _ =>
      base.withLabel "string opened here"
        |>.withNote "string literals cannot span lines"
        |>.withHelp "close the string with `\"`"
  | invalidToken lexeme _ =>
      base.withLabel "invalid token"
        |>.withNote ("`" ++ lexeme ++ "` is not a name, number, string, or symbol")

end LexError

end StatementLexer
