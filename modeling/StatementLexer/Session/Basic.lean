import StatementLexer.Session.Fault
import StatementLexer.Session.Listing
import StatementLexer.Session.Sink
import StatementLexer.Token.Reader

/-! # Sessions

A session reads all its files first, then finds the tokens of all of them, and only then writes. So a
file that cannot be read or has no tokens keeps everything from being written.
-/

namespace StatementLexer

/-- The options and the files that were read, in the same order. -/
structure Session where
  options : Options
  sources : List SourceFile
  deriving DecidableEq, Repr

namespace Session

def readSource (shelf : Shelf) (path : String) : Except Fault SourceFile :=
  match shelf path with
  | .ok text => .ok ⟨path, text⟩
  | .error cause => .error (.unreadable path cause)

def start (options : Options) (shelf : Shelf) : Except Fault Session :=
  if options.files.isEmpty then .error .noInput
  else (options.files.mapM (readSource shelf)).map fun sources => ⟨options, sources⟩

def lexSource (file : SourceFile) : Except Fault FileTokens :=
  match file.tokens with
  | .ok tokens => .ok ⟨file.name, tokens⟩
  | .error e => .error (.lexing file.name e (e.diagnostic.render file))

def lex (s : Session) : Except Fault (List FileTokens) :=
  s.sources.mapM lexSource

def chunks (s : Session) : Except Fault (List Chunk) :=
  s.lex.map fun files =>
    files.flatMap fun f => f.chunks s.options.format s.options.summary (1 < files.length)

def writeChunks (sink : Sink) : List Chunk → Sink × Option Fault
  | [] => (sink, none)
  | chunk :: rest =>
      match sink.write (Text.bytes chunk.text) with
      | (sink, none) => writeChunks sink rest
      | (sink, some cause) =>
          (sink, some (if chunk.isDocument then .document cause else .disk cause))

/-- One run: writes everything, then has the sink pass it on. -/
def run (s : Session) (sink : Sink) : Sink × Option Fault :=
  match s.chunks with
  | .error fault => (sink, some fault)
  | .ok chunks =>
      match writeChunks sink chunks with
      | (sink, some fault) => (sink, some fault)
      | (sink, none) => (sink, sink.flushFault.map .disk)

/-- Runs in a row on one sink, up to the first that fails. -/
def runTimes (s : Session) : Nat → Sink → Sink × Option Fault
  | 0, sink => (sink, none)
  | n + 1, sink =>
      match s.run sink with
      | (sink, some fault) => (sink, some fault)
      | (sink, none) => s.runTimes n sink

end Session

end StatementLexer
