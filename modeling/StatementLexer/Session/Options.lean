import StatementLexer.Text.Quoted

/-! # Session options -/

namespace StatementLexer

inductive OutputFormat where
  | text
  | json
  deriving DecidableEq, Repr, Inhabited

namespace OutputFormat

def label : OutputFormat → String
  | text => "text"
  | json => "json"

def ofLabel? : String → Option OutputFormat
  | "text" => some text
  | "json" => some json
  | _ => none

def detail : OutputFormat → String
  | text => "Text"
  | json => "Json"

end OutputFormat

structure Options where
  files : List String
  format : OutputFormat
  summary : Bool
  deriving DecidableEq, Repr

namespace Options

def detail (o : Options) : String :=
  "Options \x7b files: [" ++ ", ".intercalate (o.files.map Text.quote) ++ "], format: " ++
    o.format.detail ++ ", summary: " ++ toString o.summary ++ " \x7d"

end Options

end StatementLexer
