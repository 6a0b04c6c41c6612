import StatementLexer.Session.Basic

/-! # Events

What a session does, step by step, for those who want to follow it.
-/

namespace StatementLexer

inductive Event where
  | started (options : Options)
  | split (lexemes bytes : Nat)
  | lexing (file : String) (lexemes : Nat)
  | unclassifiable (lexeme : String) (span : Span)
  | tokenized (file : String) (tokens : Nat)
  deriving DecidableEq, Repr

/-- The steps of finding a file's tokens; a text that cannot be split leaves none. -/
def SourceFile.events (file : SourceFile) : List Event :=
  match Reader.ofSource file.statements with
  | .error _ => []
  | .ok r =>
      .split r.remaining (Text.byteLength r.source.toList) :: .lexing file.name r.remaining ::
        match r.collect.1 with
        | .ok tokens => [.tokenized file.name tokens.length]
        | .error (.invalidToken lexeme span) => [.unclassifiable lexeme span]
        | .error _ => []

/-- The steps of finding the tokens of files, up to the first that has none. -/
def eventsOfSources : List SourceFile → List Event
  | [] => []
  | file :: rest =>
      file.events ++
        match file.tokens with
        | .ok _ => eventsOfSources rest
        | .error _ => []

def Session.events (s : Session) : List Event :=
  eventsOfSources s.sources

end StatementLexer
