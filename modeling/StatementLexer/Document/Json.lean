import StatementLexer.Decimal.Layout

/-! # JSON documents

The values of a JSON document and their form on several lines: two spaces for each level, one item or
member a line, and brackets without content on one line.
-/

namespace StatementLexer

/-- A JSON value; the members of a record keep their order. -/
inductive JsonValue where
  | null
  | text (s : String)
  | number (x : Binary64)
  | natural (n : Nat)
  | list (items : List JsonValue)
  | record (members : List (String × JsonValue))

namespace JsonValue

/-- The value of a number; one that is not finite has none in JSON. -/
def ofBinary64 (x : Binary64) : JsonValue :=
  if x.isFinite then .number x else .null

def escape (c : Char) : List Char :=
  if c = '"' then ['\\', '"']
  else if c = '\\' then ['\\', '\\']
  else if c = '\x08' then ['\\', 'b']
  else if c = '\t' then ['\\', 't']
  else if c = '\n' then ['\\', 'n']
  else if c = '\x0C' then ['\\', 'f']
  else if c = '\r' then ['\\', 'r']
  else if c.toNat < 0x20 then
    ['\\', 'u', '0', '0', Nat.digitChar (c.toNat / 16), Nat.digitChar (c.toNat % 16)]
  else [c]

def quoted (s : String) : List Char :=
  '"' :: s.toList.flatMap escape ++ ['"']

def indent (depth : Nat) : List Char :=
  List.replicate (2 * depth) ' '

mutual

/-- A value that starts at nesting level `depth`. -/
def pretty (depth : Nat) : JsonValue → List Char
  | .null => ['n', 'u', 'l', 'l']
  | .text s => quoted s
  | .number x => (Layout.document.write x).toList
  | .natural n => Nat.toDigits 10 n
  | .list [] => ['[', ']']
  | .list (v :: vs) =>
      '[' :: '\n' :: indent (depth + 1) ++ pretty (depth + 1) v ++ prettyItems (depth + 1) vs ++
        '\n' :: indent depth ++ [']']
  | .record [] => ['\x7b', '\x7d']
  | .record ((k, v) :: ms) =>
      '\x7b' :: '\n' :: indent (depth + 1) ++ quoted k ++ ':' :: ' ' :: pretty (depth + 1) v ++
        prettyMembers (depth + 1) ms ++ '\n' :: indent depth ++ ['\x7d']

def prettyItems (depth : Nat) : List JsonValue → List Char
  | [] => []
  | v :: vs => ',' :: '\n' :: indent depth ++ pretty depth v ++ prettyItems depth vs

def prettyMembers (depth : Nat) : List (String × JsonValue) → List Char
  | [] => []
  | (k, v) :: ms =>
      ',' :: '\n' :: indent depth ++ quoted k ++ ':' :: ' ' :: pretty depth v ++
        prettyMembers depth ms

end

def document (v : JsonValue) : String :=
  String.ofList (v.pretty 0)

end JsonValue

end StatementLexer
