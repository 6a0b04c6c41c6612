import StatementLexer.Text.CharRange

/-! # Blanks and separators

White space as the Unicode character database has it, and the separators of this language: the four
information separators count as white space, and the next-line and no-break characters do not.
-/

namespace StatementLexer.Text

/-- The ranges of the White_Space property, in increasing order. -/
def blankRanges : List CharRange :=
  [(0x9, 0xD), (0x20, 0x20), (0x85, 0x85), (0xA0, 0xA0), (0x1680, 0x1680), (0x2000, 0x200A),
    (0x2028, 0x2029), (0x202F, 0x202F), (0x205F, 0x205F), (0x3000, 0x3000)]

def isBlank (c : Char) : Bool :=
  inRanges blankRanges c

def informationSeparators : List CharRange :=
  [(0x1C, 0x1F)]

/-- White space that holds two words together: next line and the three no-break spaces. -/
def bindingBlanks : List CharRange :=
  [(0x85, 0x85), (0xA0, 0xA0), (0x2007, 0x2007), (0x202F, 0x202F)]

/-- A separator ends the lexeme before it and is part of none. -/
def isSeparator (c : Char) : Bool :=
  inRanges informationSeparators c || (isBlank c && !inRanges bindingBlanks c)

end StatementLexer.Text
