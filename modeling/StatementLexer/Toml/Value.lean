/-! # TOML values

What a TOML text can hold. Times are kept as they are written, and of a number with a fraction or an
exponent it is only known that it is one: the settings have no use for either.
-/

namespace StatementLexer.Toml

inductive Value where
  | text (s : String)
  | boolean (b : Bool)
  | integer (n : Int)
  | float
  | time
  | array (items : List Value)
  | table (members : List (String × Value))

namespace Value

def find? (members : List (String × Value)) (key : String) : Option Value :=
  (members.find? (·.1 = key)).map (·.2)

def isEmpty : Value → Bool
  | array [] => true
  | table [] => true
  | _ => false

end Value

end StatementLexer.Toml
