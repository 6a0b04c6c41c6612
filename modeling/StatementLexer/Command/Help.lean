import StatementLexer.Command.Argument

/-! # Help

The texts that explain the command: one line for each option, or a paragraph for each. Both show the
values of the environment variables. Letters and names stand in bold type, which is left out where
there is no terminal.
-/

namespace StatementLexer.Command

def versionText : String := "mathc 0.1.0\n"

def spaces (n : Nat) : String :=
  String.ofList (List.replicate n ' ')

/-- All lines of a text but the first start at a margin. -/
def hang (margin : Nat) (text : String) : String :=
  String.ofList (text.toList.flatMap fun c =>
    if c = '\n' then c :: List.replicate margin ' ' else [c])

namespace Flag

def valueName : Flag → String
  | setting .format => " <FORMAT>"
  | setting .config => " <CONFIG>"
  | _ => ""

/-- What stands in front of the explanation of an option: letter, name and value. -/
def heading (flag : Flag) (letter : Option Char) (name : String) : String :=
  let short := match letter with
    | some c => Text.Style.bold.apply (String.ofList ['-', c]) ++ ", "
    | none => spaces 4
  "  " ++ short ++ Text.Style.bold.apply ("--" ++ name) ++ flag.valueName

def purpose (long : Bool) : Flag → String
  | setting .format => "Output format (default: from config, otherwise text)"
  | setting .config => "Path to configuration file"
  | switch .summary => "Print per-kind token counts after each stream"
  | switch .verbose => "Enable verbose output"
  | switch .noColor => "Disable color output"
  | question .help =>
      if long then "Print help (see a summary with '-h')" else "Print help (see more with '--help')"
  | question .version => "Print version"

def environmentNote? (lookup : String → Option String) (flag : Flag) : Option String :=
  flag.envName?.map fun name => "[env: " ++ name ++ "=" ++ (lookup name).getD "" ++ "]"

def explanation (lookup : String → Option String) (long : Bool) (flag : Flag) : String :=
  match flag.environmentNote? lookup with
  | none => flag.purpose long
  | some note => flag.purpose long ++ (if long then "\n\n" else " ") ++ note

def knownValues : Bool → Flag → String
  | false, setting .format => " [possible values: text, json]"
  | true, setting .format =>
      "\n\n          Possible values:\n          - text: One `Kind(value)` line per token\n" ++
        "          - json: A JSON array of `\x7b \"kind\", \"value\" \x7d` objects"
  | _, _ => ""

/-- An option on a line of its own; the explanations stand in one column. -/
def shortEntry (lookup : String → Option String) (flag : Flag) (letter : Option Char)
    (name : String) : String :=
  let column := 25
  let heading := flag.heading letter name
  heading ++ spaces (column - (Text.plain heading).length) ++
    hang column (flag.explanation lookup false) ++ knownValues false flag

def longEntry (lookup : String → Option String) (flag : Flag) (letter : Option Char)
    (name : String) : String :=
  let margin := 10
  flag.heading letter name ++ "\n" ++ spaces margin ++
    hang margin (flag.explanation lookup true) ++ knownValues true flag

end Flag

def helpText (lookup : String → Option String) (long : Bool) : String :=
  let entries := Flag.table.map fun (flag, letter, name) =>
    if long then flag.longEntry lookup letter name else flag.shortEntry lookup letter name
  "Tokenize math language source files\n\nUsage: mathc [OPTIONS] <FILES>...\n\nArguments:\n" ++
    "  " ++ filesLabel ++ (if long then "\n" ++ spaces 10 else "  ") ++
    "Source files to tokenize\n\nOptions:\n" ++
    (if long then "\n\n" else "\n").intercalate entries ++ "\n"

/-- The answer to a question, printed without a terminal; a question by name gets the longer help. -/
def Question.answer (lookup : String → Option String) (byName : Bool) : Question → String
  | .version => versionText
  | .help => Text.plain (helpText lookup byName)

end StatementLexer.Command
