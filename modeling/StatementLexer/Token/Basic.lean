import StatementLexer.Decimal.Layout

/-! # Tokens

What a source text means, piece by piece: names, numbers, strings and symbols.
-/

namespace StatementLexer

/-- The characters that are tokens by themselves. -/
def symbols : List Char := ['-', '+', '=', ';', '*', '/']

/-- The symbol that ends a statement, and with it a line. -/
def terminator : Char := ';'

def isSymbol (c : Char) : Bool :=
  symbols.contains c

inductive TokenKind where
  | name
  | number
  | string
  | symbol
  deriving DecidableEq, Repr

namespace TokenKind

def label : TokenKind → String
  | name => "Name"
  | number => "Number"
  | string => "StringLiteral"
  | symbol => "Symbol"

end TokenKind

/-- A token; a string is held without its quotes. -/
inductive Token where
  | name (text : String)
  | number (value : Binary64)
  | string (text : String)
  | symbol (char : Char)
  deriving DecidableEq, Repr

namespace Token

def ofSymbol? (c : Char) : Option Token :=
  if isSymbol c then some (.symbol c) else none

def kind : Token → TokenKind
  | name _ => .name
  | number _ => .number
  | string _ => .string
  | symbol _ => .symbol

def isTerminator : Token → Bool
  | symbol c => c == terminator
  | _ => false

def text : Token → String
  | name t => t
  | number x => Layout.plain.write x
  | string t => "\"" ++ t ++ "\""
  | symbol c => String.singleton c

def listed : Token → String
  | name t => t
  | number x => Layout.labelled.write x
  | string t => t
  | symbol c => String.singleton c

/-- Kind and value, as in `Name(x)`. -/
def describe (t : Token) : String :=
  t.kind.label ++ "(" ++ t.listed ++ ")"

/-- Equality of what tokens stand for: numbers compare as numbers. -/
def agrees : Token → Token → Bool
  | name s, name t => s == t
  | number x, number y => x.numEq y
  | string s, string t => s == t
  | symbol c, symbol d => c == d
  | _, _ => false

end Token

end StatementLexer
