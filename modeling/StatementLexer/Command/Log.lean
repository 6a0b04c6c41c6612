import StatementLexer.Session.Event
import StatementLexer.Text.Terminal

/-! # Log lines

An event as a line of the log: when, how important, what, and the values that belong to it. Colours are
control sequences around the parts.
-/

namespace StatementLexer.Command

inductive LogLevel where
  | debug
  | info
  deriving DecidableEq, Repr

/-- A line of the log without its time. -/
structure LogLine where
  level : LogLevel
  message : String
  fields : List (String × String)
  deriving DecidableEq, Repr

def LogLine.ofEvent : Event → LogLine
  | .started options => ⟨.debug, "starting session", [("options", options.detail)]⟩
  | .split lexemes bytes =>
      ⟨.debug, "split source", [("lexemes", toString lexemes), ("bytes", toString bytes)]⟩
  | .lexing file lexemes =>
      ⟨.debug, "lexing", [("file", Text.quote file), ("lexemes", toString lexemes)]⟩
  | .unclassifiable lexeme span =>
      ⟨.debug, "unclassifiable lexeme", [("lexeme", Text.quote lexeme), ("span", span.text)]⟩
  | .tokenized file tokens =>
      ⟨.info, "tokenized", [("file", Text.quote file), ("tokens", toString tokens)]⟩

def paint (color : Bool) (style : Text.Style) (text : String) : String :=
  if color then style.apply text else text

namespace LogLine

def levelText (color : Bool) : LogLevel → String
  | .debug => paint color .blue "DEBUG"
  | .info => paint color .green " INFO"

def fieldText (color : Bool) (field : String × String) : String :=
  " " ++ paint color .italic field.1 ++ paint color .dim "=" ++ field.2

def render (color : Bool) (stamp : String) (l : LogLine) : String :=
  paint color .dim stamp ++ " " ++ levelText color l.level ++ " " ++ l.message ++
    String.join (l.fields.map (fieldText color)) ++ "\n"

end LogLine

end StatementLexer.Command
