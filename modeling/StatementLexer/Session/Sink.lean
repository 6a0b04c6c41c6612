import StatementLexer.Disk.Fault
import StatementLexer.Text.Bytes

/-! # Sinks

Where output goes. A sink may have room for some number of bytes only: what fits is taken, and then it
fails.
-/

namespace StatementLexer

structure Sink where
  /-- Bytes that it still takes; any number if `none`. -/
  room : Option Nat
  /-- What it reports when there is no room left. -/
  fullFault : DiskFault
  /-- What it reports when asked to pass everything on. -/
  flushFault : Option DiskFault
  /-- Everything taken so far. -/
  written : List UInt8
  deriving DecidableEq, Repr

namespace Sink

def unlimited : Sink := ⟨none, .device "", none, []⟩

/-- Writes all bytes, or those for which there is room. -/
def write (s : Sink) (bytes : List UInt8) : Sink × Option DiskFault :=
  match s.room with
  | none => ({ s with written := s.written ++ bytes }, none)
  | some n =>
      if bytes.length ≤ n then
        ({ s with room := some (n - bytes.length), written := s.written ++ bytes }, none)
      else
        ({ s with room := some 0, written := s.written ++ bytes.take n }, some s.fullFault)

end Sink

end StatementLexer
