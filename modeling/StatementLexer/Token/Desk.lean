import StatementLexer.Token.Reader

/-! # A reader and its copies

A reader answers operation after operation. Copies of it can be put on a pile, and the topmost copy
can take the place of the reader.
-/

namespace StatementLexer

/-- What can be asked of a reader, and what can be done with copies of it. -/
inductive Operation where
  | nextToken
  | next
  | nth (n : Nat)
  | collect
  | count
  | last
  | remaining
  | sizeBounds
  | source
  /-- Puts a copy of the reader on the pile. -/
  | save
  /-- Goes on with the topmost copy, if there is one. -/
  | restore
  deriving DecidableEq, Repr

inductive Answer where
  | token (t : Except LexError (Option Token))
  | item (i : Option Reader.Item)
  | tokens (ts : Except LexError (List Token))
  | number (n : Nat)
  | bounds (lower : Nat) (upper : Option Nat)
  | text (s : String)
  /-- There is no copy to go on with. -/
  | nothing
  deriving Repr

/-- A reader and the pile of its copies, the topmost one first. -/
structure Desk where
  reader : Reader
  saved : List Reader
  deriving DecidableEq, Repr

namespace Desk

def step (d : Desk) : Operation → Answer × Desk
  | .nextToken => (.token d.reader.nextToken.1, { d with reader := d.reader.nextToken.2 })
  | .next => (.item d.reader.next.1, { d with reader := d.reader.next.2 })
  | .nth n => (.item (d.reader.nth n).1, { d with reader := (d.reader.nth n).2 })
  | .collect => (.tokens d.reader.collect.1, { d with reader := d.reader.collect.2 })
  | .count => (.number d.reader.count.1, { d with reader := d.reader.count.2 })
  | .last => (.item d.reader.last.1, { d with reader := d.reader.last.2 })
  | .remaining => (.number d.reader.remaining, d)
  | .sizeBounds => (.bounds d.reader.sizeBounds.1 d.reader.sizeBounds.2, d)
  | .source => (.text d.reader.source, d)
  | .save => (.number (d.saved.length + 1), { d with saved := d.reader :: d.saved })
  | .restore =>
      match d.saved with
      | [] => (.nothing, d)
      | top :: rest => (.number top.remaining, ⟨top, rest⟩)

/-- The answers to operations in order, and the desk behind the last. -/
def run (d : Desk) : List Operation → List Answer × Desk
  | [] => ([], d)
  | op :: ops =>
      let (answer, next) := d.step op
      let (answers, final) := run next ops
      (answer :: answers, final)

@[simp] theorem run_nil (d : Desk) : d.run [] = ([], d) := rfl

@[simp] theorem run_cons (d : Desk) (op : Operation) (ops : List Operation) :
    d.run (op :: ops) =
      ((d.step op).1 :: ((d.step op).2.run ops).1, ((d.step op).2.run ops).2) := rfl

theorem run_append (d : Desk) (ops more : List Operation) :
    d.run (ops ++ more) =
      ((d.run ops).1 ++ ((d.run ops).2.run more).1, ((d.run ops).2.run more).2) := by
  induction ops generalizing d with
  | nil => rfl
  | cons op ops ih => simp [ih]

end Desk

end StatementLexer
