import StatementLexer.Session.Options
import StatementLexer.Text.Terminal

/-! # Arguments of the command

The options that the command knows, and what can be wrong with their use.
-/

namespace StatementLexer.Command

inductive Switch where
  | summary
  | verbose
  | noColor
  deriving DecidableEq, Repr

inductive Setting where
  | format
  | config
  deriving DecidableEq, Repr

inductive Question where
  | help
  | version
  deriving DecidableEq, Repr

inductive Flag where
  | switch (s : Switch)
  | setting (s : Setting)
  | question (q : Question)
  deriving DecidableEq, Repr

namespace Flag

def table : List (Flag × Option Char × String) :=
  [(.setting .format, some 'f', "format"), (.switch .summary, some 's', "summary"),
    (.switch .verbose, some 'v', "verbose"), (.setting .config, some 'c', "config"),
    (.switch .noColor, none, "no-color"), (.question .help, some 'h', "help"),
    (.question .version, some 'V', "version")]

def ofLetter? (c : Char) : Option Flag :=
  (table.find? fun (_, letter, _) => letter = some c).map (·.1)

def ofName? (name : String) : Option Flag :=
  (table.find? fun (_, _, known) => known = name).map (·.1)

def label : Flag → String
  | switch .summary => "--summary"
  | switch .verbose => "--verbose"
  | switch .noColor => "--no-color"
  | setting .format => "--format <FORMAT>"
  | setting .config => "--config <CONFIG>"
  | question .help => "--help"
  | question .version => "--version"

/-- The environment variable that stands in for an option. -/
def envName? : Flag → Option String
  | switch .verbose => some "MATHC_VERBOSE"
  | switch .noColor => some "MATHC_NO_COLOR"
  | setting .config => some "MATHC_CONFIG"
  | _ => none

end Flag

def filesLabel : String := "<FILES>..."

inductive UsageError where
  | valueRequired (label : String)
  | invalidValue (value label : String)
  | unexpected (argument : String)
  | repeated (label : String)
  | surplusValue (value label : String)
  | filesRequired
  deriving DecidableEq, Repr

namespace UsageError

def offending (words : String) : String :=
  "'" ++ Text.Style.yellow.apply words ++ "'"

def message : UsageError → String
  | valueRequired label => "a value is required for '" ++ label ++ "' but none was supplied"
  | invalidValue value label => "invalid value " ++ offending value ++ " for '" ++ label ++ "'"
  | unexpected argument => "unexpected argument " ++ offending argument ++ " found"
  | repeated label => "the argument '" ++ label ++ "' cannot be used multiple times"
  | surplusValue value label =>
      "unexpected value " ++ offending value ++ " for '" ++ label ++
        "' found; no more were expected"
  | filesRequired => "the following required arguments were not provided:\n  " ++ filesLabel

/-- The message with a pointer to the help, as it is printed without a terminal. -/
def report (e : UsageError) : String :=
  Text.plain ("error: " ++ e.message ++
    "\n\nUsage: mathc [OPTIONS] <FILES>...\n\nFor more information, try '--help'.\n")

/-- A value that is not understood; an empty one counts as missing. -/
def ofValue (value label : String) : UsageError :=
  if value = "" then valueRequired label else invalidValue value label

end UsageError

end StatementLexer.Command
