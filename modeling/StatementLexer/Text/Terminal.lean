/-! # Text for a terminal

Styles and other commands to a terminal stand in a text as control sequences. Where there is no
terminal the text is printed plain, without controls and sequences.
-/

namespace StatementLexer.Text

inductive Style where
  | bold
  | dim
  | italic
  | green
  | yellow
  | blue
  deriving DecidableEq, Repr

namespace Style

def number : Style → String
  | bold => "1"
  | dim => "2"
  | italic => "3"
  | green => "32"
  | yellow => "33"
  | blue => "34"

/-- Text in a style; what follows is in none. -/
def apply (style : Style) (text : String) : String :=
  "\x1B[" ++ style.number ++ "m" ++ text ++ "\x1B[0m"

end Style

/-- The controls that lay out plain text: tab, line feed, form feed and carriage return. -/
def isLayout (c : Char) : Bool :=
  c == '\t' || c == '\n' || c == '\x0C' || c == '\r'

/-- The characters of plain text: those that lay it out, and all but the controls of ASCII. -/
def isPrinted (c : Char) : Bool :=
  isLayout c || (' ' ≤ c && c != '\x7F')

/-- Where the reader of a text with control sequences stands. -/
inductive Phase where
  | text
  /-- Behind the escape character. -/
  | escape
  /-- In a short sequence, up to its final character. -/
  | shortSequence
  /-- In a control sequence, up to its final character. -/
  | controlSequence
  /-- In an operating system command, up to the bell. -/
  | systemCommand
  /-- In the head of a device control string: at its start, among its numbers, or among its marks. -/
  | deviceStart
  | deviceNumbers
  | deviceMarks
  /-- In a string for the terminal, up to the byte that ends strings. -/
  | body
  deriving DecidableEq, Repr

namespace Phase

def within (c : Char) (first last : Nat) : Bool :=
  first ≤ c.toNat && c.toNat ≤ last

/-- Strings end at a byte, also when it is part of a longer character. -/
def endsString (c : Char) : Bool :=
  (String.utf8EncodeChar c).contains 0x9C

/-- The phase behind a character that neither cancels nor starts a sequence. -/
def next (p : Phase) (c : Char) : Phase :=
  match p with
  | text => text
  | escape =>
      if c = '[' then controlSequence
      else if c = ']' then systemCommand
      else if c = 'P' then deviceStart
      else if c = 'X' || c = '^' || c = '_' then body
      else if within c 0x20 0x2F then shortSequence
      else if within c 0x30 0x7E then text
      else escape
  | shortSequence => if within c 0x30 0x7E then text else shortSequence
  | controlSequence => if within c 0x40 0x7E then text else controlSequence
  | systemCommand => if c = '\x07' then text else systemCommand
  | deviceStart =>
      if within c 0x20 0x2F then deviceMarks
      else if within c 0x30 0x3F then deviceNumbers
      else if within c 0x40 0x7E then body
      else deviceStart
  | deviceNumbers =>
      if within c 0x20 0x2F then deviceMarks
      else if within c 0x3C 0x7E then body
      else deviceNumbers
  | deviceMarks => if within c 0x30 0x7E then body else deviceMarks
  | body => if endsString c then text else body

/-- Layout is printed in these phases, and breaks a sequence off. -/
def keepsLayout : Phase → Bool
  | text | escape | shortSequence | controlSequence => true
  | _ => false

/-- The phase behind a character, and whether the character is printed. -/
def step (p : Phase) (c : Char) : Phase × Bool :=
  if c = '\x1B' then (escape, false)
  else if c = '\x18' || c = '\x1A' then (text, false)
  else if p.keepsLayout && isLayout c then (text, true)
  else (p.next c, p == text && isPrinted c)

end Phase

def plainFrom : Phase → List Char → List Char
  | _, [] => []
  | p, c :: rest =>
      let (p', printed) := p.step c
      if printed then c :: plainFrom p' rest else plainFrom p' rest

/-- What is printed of a text where there is no terminal. -/
def plain (s : String) : String :=
  String.ofList (plainFrom .text s.toList)

end StatementLexer.Text
