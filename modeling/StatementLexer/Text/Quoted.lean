import StatementLexer.Text.Hidden

/-! # Quoted text

A text between double quotes in which every character can be seen: double quotes and backslashes
follow a backslash, the common controls have a letter, and hidden characters are written by number.
-/

namespace StatementLexer.Text

/-- The code point of a character in lowercase hexadecimal, without leading zeros. -/
def hexCode (c : Char) : String :=
  String.ofList (Nat.toDigits 16 c.toNat)

def visible (c : Char) : String :=
  if c.toNat = 0 then "\\0"
  else if c = '\t' then "\\t"
  else if c = '\r' then "\\r"
  else if c = '\n' then "\\n"
  else if c = '\\' || c = '"' then "\\" ++ String.singleton c
  else if isHidden c then "\\u\x7b" ++ hexCode c ++ "\x7d"
  else String.singleton c

def quote (s : String) : String :=
  "\"" ++ String.join (s.toList.map visible) ++ "\""

end StatementLexer.Text
