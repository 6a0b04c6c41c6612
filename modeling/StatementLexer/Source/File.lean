import StatementLexer.Source.Span
import StatementLexer.Text.Bytes
import StatementLexer.Text.Quoted

/-! # Source files

A named text with an index of its lines: lines are numbered from one, and each `\n` opens another.
-/

namespace StatementLexer

inductive RangeError where
  | reversed (start stop : Nat)
  | outOfBounds (length start stop : Nat)
  | noSuchLine (line count : Nat)
  deriving DecidableEq, Repr

namespace RangeError

def message : RangeError → String
  | reversed start stop => s!"Invalid span: start {start} > end {stop}"
  | outOfBounds length start stop =>
      s!"Span out of bounds: file has {length} bytes, span is {start}..{stop}"
  | noSuchLine line count => s!"Invalid line number: {line} (file has {count} lines)"

def kind : RangeError → String
  | reversed .. => "InvalidSpan"
  | outOfBounds .. => "SpanOutOfBounds"
  | noSuchLine .. => "InvalidLineNumber"

def fields : RangeError → List (String × Nat)
  | reversed start stop => [("start", start), ("end", stop)]
  | outOfBounds length start stop =>
      [("file_len", length), ("span_start", start), ("span_end", stop)]
  | noSuchLine line count => [("line", line), ("max_lines", count)]

def detail (e : RangeError) : String :=
  e.kind ++ " \x7b " ++ ", ".intercalate (e.fields.map fun (n, v) => n ++ ": " ++ toString v) ++
    " \x7d"

end RangeError

structure SourceFile where
  name : String
  content : String
  deriving DecidableEq, Repr

/-- The byte offsets just behind each `\n` of a text that starts at offset `n`. -/
def offsetsBehindBreaks (n : Nat) : List Char → List Nat
  | [] => []
  | c :: cs =>
      let next := n + c.utf8Size
      if c = '\n' then next :: offsetsBehindBreaks next cs else offsetsBehindBreaks next cs

namespace SourceFile

def length (f : SourceFile) : Nat :=
  Text.byteLength f.content.toList

def lineStarts (f : SourceFile) : List Nat :=
  0 :: offsetsBehindBreaks 0 f.content.toList

def lineCount (f : SourceFile) : Nat :=
  f.lineStarts.length

def trimBreaks (cs : List Char) : List Char :=
  (cs.reverse.dropWhile fun c => c == '\n' || c == '\r').reverse

def range (f : SourceFile) (start stop : Nat) : Except RangeError String :=
  if stop < start then .error (.reversed start stop)
  else
    match Text.slice? start stop f.content.toList with
    | some cs => .ok (String.ofList cs)
    | none => .error (.outOfBounds f.length start stop)

def line (f : SourceFile) (n : Nat) : Except RangeError String :=
  match n with
  | 0 => .error (.noSuchLine 0 f.lineCount)
  | i + 1 =>
      match f.lineStarts[i]? with
      | none => .error (.noSuchLine n f.lineCount)
      | some start =>
          let stop := (f.lineStarts[i + 1]?).getD f.length
          (f.range start stop).map fun s => String.ofList (trimBreaks s.toList)

def detail (f : SourceFile) : String :=
  "SourceFile \x7b name: " ++ Text.quote f.name ++ ", line_count: " ++ toString f.lineCount ++
    " \x7d"

end SourceFile

end StatementLexer
