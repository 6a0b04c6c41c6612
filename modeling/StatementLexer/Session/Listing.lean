import StatementLexer.Document.Json
import StatementLexer.Session.Options
import StatementLexer.Token.Tally

/-! # Listings

The tokens of a file as a session shows them: a line each, or a JSON document.
-/

namespace StatementLexer

structure FileTokens where
  name : String
  tokens : List Token
  deriving DecidableEq, Repr

/-- A piece of output; writing a document fails in its own way. -/
structure Chunk where
  isDocument : Bool
  text : String
  deriving DecidableEq, Repr

namespace Token

def jsonValue : Token → JsonValue
  | name t => .text t
  | number x => .ofBinary64 x
  | string t => .text t
  | symbol c => .text (String.singleton c)

def record (t : Token) : JsonValue :=
  .record [("kind", .text t.kind.label), ("value", t.jsonValue)]

end Token

namespace TokenKind

def all : List TokenKind := [name, number, string, symbol]

end TokenKind

namespace Tally

/-- The kinds that occur, in the order of their labels. -/
def sorted (tally : Tally) : Tally :=
  TokenKind.all.filterMap fun kind => tally.find? (·.1 = kind)

def record (tally : Tally) : JsonValue :=
  .record (tally.sorted.map fun (kind, n) => (kind.label, .natural n))

def lines (tally : Tally) : List String :=
  tally.map fun (kind, n) => kind.label ++ ": " ++ toString n ++ "\n"

end Tally

namespace FileTokens

/-- The line above a listing that is not the only one. -/
def heading (f : FileTokens) : String :=
  "==> " ++ f.name ++ " <==\n"

def lines (f : FileTokens) (summary : Bool) : List String :=
  f.tokens.map (fun t => t.describe ++ "\n") ++
    if summary then
      ("-- " ++ toString f.tokens.length ++ " tokens\n") :: (Tally.ofTokens f.tokens).lines
    else []

def document (f : FileTokens) (summary : Bool) : JsonValue :=
  let records := JsonValue.list (f.tokens.map Token.record)
  if summary then .record [("summary", (Tally.ofTokens f.tokens).record), ("tokens", records)]
  else records

/-- What a session writes for a file, line by line or as a document with a line break behind it;
`several` tells that it is not the only one. -/
def chunks (f : FileTokens) (format : OutputFormat) (summary several : Bool) : List Chunk :=
  match format with
  | .text => ((if several then [f.heading] else []) ++ f.lines summary).map (⟨false, ·⟩)
  | .json => [⟨true, (f.document summary).document⟩, ⟨false, "\n"⟩]

end FileTokens

end StatementLexer
