/-! # Spans and marks

A span is a range of bytes with the line and column of its start, as a reader counts them. A mark is
one position; reading a character moves it.
-/

namespace StatementLexer

/-- The bytes from `start` up to `stop`, and where `start` is: lines and columns count from one, and
columns count characters. -/
structure Span where
  start : Nat
  stop : Nat
  line : Nat
  column : Nat
  deriving DecidableEq, Repr, Inhabited

namespace Span

/-- The span of a message about no place in particular. -/
def nowhere : Span := ⟨0, 0, 0, 0⟩

def text (s : Span) : String :=
  toString s.line ++ ":" ++ toString s.column

end Span

structure Mark where
  position : Nat
  line : Nat
  column : Nat
  deriving DecidableEq, Repr, Inhabited

namespace Mark

def origin : Mark := ⟨0, 1, 1⟩

def after (m : Mark) (c : Char) : Mark :=
  if c = '\n' then ⟨m.position + c.utf8Size, m.line + 1, 1⟩
  else ⟨m.position + c.utf8Size, m.line, m.column + 1⟩

def spanTo (m : Mark) (stop : Nat) : Span :=
  ⟨m.position, stop, m.line, m.column⟩

def spanOf (m : Mark) (c : Char) : Span :=
  m.spanTo (m.position + c.utf8Size)

@[simp] theorem after_position (m : Mark) (c : Char) :
    (m.after c).position = m.position + c.utf8Size := by
  unfold after
  split <;> rfl

end Mark

end StatementLexer
