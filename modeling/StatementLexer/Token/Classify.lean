import StatementLexer.Decimal.Numeral
import StatementLexer.Lexeme.Basic
import StatementLexer.Text.Letter
import StatementLexer.Token.Basic

/-! # Classifying lexemes

The kind of a lexeme depends on its text alone. The rules are tried in order, and the first that
accepts the text makes the token.
-/

namespace StatementLexer

structure TokenRule where
  accepts : List Char → Bool
  token? : List Char → Option Token

namespace TokenRule

def isQuoted (cs : List Char) : Bool :=
  2 ≤ Text.byteLength cs && cs.head? == some '"' && cs.getLast? == some '"'

def isSingleSymbol : List Char → Bool
  | [c] => isSymbol c
  | _ => false

def isName (cs : List Char) : Bool :=
  cs.head?.any Text.isLetter

def string : TokenRule where
  accepts := isQuoted
  token? cs := some (.string (String.ofList cs.tail.dropLast))

def number : TokenRule where
  accepts := Numeral.isNumeral
  token? cs := (Numeral.read? cs).map .number

def symbol : TokenRule where
  accepts := isSingleSymbol
  token? cs := cs.head?.bind Token.ofSymbol?

def name : TokenRule where
  accepts := isName
  token? cs := some (.name (String.ofList cs))

end TokenRule

/-- The rules in the order in which they are tried. -/
def tokenRules : List TokenRule :=
  [TokenRule.string, TokenRule.number, TokenRule.symbol, TokenRule.name]

/-- The token that the first accepting rule of a list makes. -/
def classifyBy (rules : List TokenRule) (cs : List Char) : Option Token :=
  (rules.find? fun rule => rule.accepts cs).bind fun rule => rule.token? cs

def Lexeme.classify (l : Lexeme) : Except LexError Token :=
  match classifyBy tokenRules l.text.toList with
  | some token => .ok token
  | none => .error (.invalidToken l.text l.span)

end StatementLexer
