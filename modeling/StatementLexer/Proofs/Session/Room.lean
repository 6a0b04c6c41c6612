import StatementLexer.Proofs.Session.Outcome

/-! # Sinks that run out of room

A session writes many pieces one after another, and the first that does not fit ends the run. So a
sink with room for `k` bytes holds the first `k` bytes of what a sink without bounds would hold, and
the byte that is refused tells the fault: output fails in one way inside a document and in another
everywhere else. How the output is cut into pieces does not matter. Main statement:
`runTimes_of_room`.
-/

namespace StatementLexer

/-- A byte of output, and whether it is part of a document. -/
structure Cell where
  byte : UInt8
  inDocument : Bool
  deriving DecidableEq, Repr

def Cell.ofText (inDocument : Bool) (s : String) : List Cell :=
  (Text.bytes s).map (⟨·, inDocument⟩)

def Cell.refusal (cause : DiskFault) (cell : Cell) : Fault :=
  if cell.inDocument then .document cause else .disk cause

def Chunk.cells (chunk : Chunk) : List Cell :=
  Cell.ofText chunk.isDocument chunk.text

/-- The block of a file: plain text, or a document and a line break that is no part of it. -/
def FileTokens.cells (f : FileTokens) (format : OutputFormat) (summary several : Bool) :
    List Cell :=
  match format with
  | .text => Cell.ofText false
      ((if several then f.heading else "") ++ String.join (f.lines summary))
  | .json => Cell.ofText true (f.document summary).document ++ Cell.ofText false "\n"

def Session.cells (s : Session) (files : List FileTokens) : List Cell :=
  files.flatMap fun f => f.cells s.options.format s.options.summary (1 < files.length)

/-! ## Cells of pieces -/

theorem Cell.ofText_join (inDocument : Bool) (ss : List String) :
    ofText inDocument (String.join ss) = ss.flatMap (ofText inDocument) := by
  rw [ofText, Text.bytes_join, List.map_flatMap]
  rfl

theorem Chunk.cells_bytes (chunk : Chunk) :
    chunk.cells.map Cell.byte = Text.bytes chunk.text := by
  simp [cells, Cell.ofText, Function.comp_def]

theorem Chunk.length_cells (chunk : Chunk) :
    chunk.cells.length = (Text.bytes chunk.text).length := by
  simp [cells, Cell.ofText]

theorem Chunk.inDocument_of_mem_cells {chunk : Chunk} {cell : Cell} (h : cell ∈ chunk.cells) :
    cell.inDocument = chunk.isDocument := by
  obtain ⟨byte, -, rfl⟩ := List.mem_map.mp h
  rfl

theorem FileTokens.flatMap_cells_chunks (f : FileTokens) (format : OutputFormat)
    (summary several : Bool) :
    (f.chunks format summary several).flatMap Chunk.cells = f.cells format summary several := by
  cases format with
  | text =>
      have hlines : String.join ((if several then [f.heading] else []) ++ f.lines summary) =
          (if several then f.heading else "") ++ String.join (f.lines summary) := by
        cases several <;> simp
      unfold chunks cells
      rw [← hlines, Cell.ofText_join, List.flatMap_map]
      rfl
  | json =>
      show Chunk.cells _ ++ (Chunk.cells _ ++ []) = _
      rw [List.append_nil]
      rfl

theorem Session.chunks_of_lex {session : Session} {files : List FileTokens}
    (hlex : session.lex = .ok files) :
    ∃ pieces, session.chunks = .ok pieces ∧
      pieces.flatMap Chunk.cells = session.cells files := by
  refine ⟨_, by rw [chunks, hlex]; rfl, ?_⟩
  rw [List.flatMap_assoc]
  simp only [FileTokens.flatMap_cells_chunks]
  rfl

/-! ## What a sink takes -/

namespace Sink

/-- The sink behind an attempt to write the cells. -/
def taking (sink : Sink) (cells : List Cell) : Sink :=
  match sink.room with
  | none => { sink with written := sink.written ++ cells.map Cell.byte }
  | some k =>
      { sink with
        room := some (k - cells.length)
        written := sink.written ++ (cells.take k).map Cell.byte }

/-- The fault of that attempt: the first cell without room is refused. -/
def refusal (sink : Sink) (cells : List Cell) : Option Fault :=
  (sink.room.bind (cells[·]?)).map (Cell.refusal sink.fullFault)

theorem taking_nil (sink : Sink) : sink.taking [] = sink := by
  unfold taking
  split
  · simp
  next k hroom => simp [← hroom]

@[simp] theorem taking_flushFault (sink : Sink) (cells : List Cell) :
    (sink.taking cells).flushFault = sink.flushFault := by
  unfold taking
  split <;> rfl

@[simp] theorem refusal_nil (sink : Sink) : sink.refusal [] = none := by
  cases hroom : sink.room <;> simp [refusal, hroom]

theorem taking_append (sink : Sink) (xs ys : List Cell) :
    sink.taking (xs ++ ys) = (sink.taking xs).taking ys := by
  cases hroom : sink.room with
  | none => simp [taking, hroom]
  | some k =>
      simp only [taking, hroom, List.length_append, List.take_append, List.map_append]
      rw [List.append_assoc, Nat.sub_sub]

theorem refusal_append (sink : Sink) (xs ys : List Cell) :
    sink.refusal (xs ++ ys) = (sink.refusal xs).or ((sink.taking xs).refusal ys) := by
  cases hroom : sink.room with
  | none => simp [refusal, taking, hroom]
  | some k =>
      simp only [refusal, taking, hroom, Option.bind_some]
      by_cases hle : xs.length ≤ k
      · rw [List.getElem?_append_right hle, List.getElem?_eq_none hle]
        rfl
      · have hlt : k < xs.length := by omega
        rw [List.getElem?_append_left hlt, List.getElem?_eq_getElem hlt]
        rfl

theorem taking_append_of_refusal {sink : Sink} {xs : List Cell} {fault : Fault}
    (h : sink.refusal xs = some fault) (ys : List Cell) :
    sink.taking (xs ++ ys) = sink.taking xs := by
  cases hroom : sink.room with
  | none => simp [refusal, hroom] at h
  | some k =>
      have hlt : k < xs.length := by
        rcases Nat.lt_or_ge k xs.length with hlt | hle
        · exact hlt
        · simp [refusal, hroom, hle] at h
      have hfull : k - (xs.length + ys.length) = k - xs.length := by omega
      have htake : (xs ++ ys).take k = xs.take k := List.take_append_of_le_length (Nat.le_of_lt hlt)
      simp only [taking, hroom, List.length_append, hfull, htake]

/-- A piece fits, or it is taken as far as there is room and its next cell is refused. -/
theorem write_piece (sink : Sink) (chunk : Chunk) :
    (sink.refusal chunk.cells = none ∧
      sink.write (Text.bytes chunk.text) = (sink.taking chunk.cells, none)) ∨
    (sink.refusal chunk.cells =
        some (if chunk.isDocument then .document sink.fullFault else .disk sink.fullFault) ∧
      sink.write (Text.bytes chunk.text) = (sink.taking chunk.cells, some sink.fullFault)) := by
  have hlength := chunk.length_cells
  cases hroom : sink.room with
  | none =>
      left
      simp [refusal, write, taking, hroom, chunk.cells_bytes]
  | some k =>
      simp only [refusal, write, taking, hroom, Option.bind_some, List.map_take, chunk.cells_bytes]
      by_cases hle : (Text.bytes chunk.text).length ≤ k
      · left
        rw [List.getElem?_eq_none (by omega), if_pos hle, List.take_of_length_le hle, hlength]
        exact ⟨rfl, rfl⟩
      · right
        have hlt : k < chunk.cells.length := by omega
        have hcell := Chunk.inDocument_of_mem_cells (List.getElem_mem hlt)
        have hzero : k - chunk.cells.length = 0 := by omega
        rw [List.getElem?_eq_getElem hlt, if_neg hle, hzero, Option.map_some, Cell.refusal, hcell]
        exact ⟨rfl, rfl⟩

end Sink

/-! ## Runs -/

namespace Session

/-- Writing pieces leaves what writing their cells one by one leaves. -/
theorem writeChunks_eq (sink : Sink) (pieces : List Chunk) :
    writeChunks sink pieces =
      (sink.taking (pieces.flatMap Chunk.cells), sink.refusal (pieces.flatMap Chunk.cells)) := by
  induction pieces generalizing sink with
  | nil => simp [writeChunks, Sink.taking_nil]
  | cons chunk pieces ih =>
      rw [List.flatMap_cons, Sink.refusal_append]
      rcases sink.write_piece chunk with ⟨hfits, hwrite⟩ | ⟨hrefused, hwrite⟩
      · simp only [writeChunks, hwrite]
        rw [ih, hfits, Sink.taking_append, Option.none_or]
      · simp only [writeChunks, hwrite]
        rw [Sink.taking_append_of_refusal hrefused, hrefused, Option.some_or]

/-- The output of `n` runs in a row, if there is room: a sink that cannot pass its content on ends
them at the end of the first. -/
def output (session : Session) (files : List FileTokens) (flushFault : Option DiskFault) (n : Nat) :
    List Cell :=
  (List.replicate (if flushFault.isNone then n else min n 1) (session.cells files)).flatten

def endFault (flushFault : Option DiskFault) (n : Nat) : Option Fault :=
  if n = 0 then none else flushFault.map .disk

section

variable {session : Session} {files : List FileTokens}

@[simp] theorem output_zero (flushFault : Option DiskFault) :
    session.output files flushFault 0 = [] := by
  simp [output]

theorem output_succ_none (n : Nat) :
    session.output files none (n + 1) = session.cells files ++ session.output files none n := by
  simp [output, List.replicate_succ]

theorem output_succ_some (cause : DiskFault) (n : Nat) :
    session.output files (some cause) (n + 1) = session.cells files := by
  simp [output]

theorem endFault_none (n : Nat) : endFault none n = none := by
  simp [endFault]

variable (hlex : session.lex = .ok files)

include hlex

theorem run_eq (sink : Sink) :
    session.run sink = (sink.taking (session.cells files),
      (sink.refusal (session.cells files)).or (sink.flushFault.map .disk)) := by
  obtain ⟨pieces, hpieces, hcells⟩ := chunks_of_lex hlex
  simp only [run, hpieces, writeChunks_eq, hcells]
  cases sink.refusal (session.cells files) with
  | none => simp
  | some fault => rfl

theorem runTimes_eq (n : Nat) (sink : Sink) :
    session.runTimes n sink = (sink.taking (session.output files sink.flushFault n),
      (sink.refusal (session.output files sink.flushFault n)).or (endFault sink.flushFault n)) := by
  induction n generalizing sink with
  | zero => simp [runTimes, endFault, Sink.taking_nil]
  | succ n ih =>
      have hrun := run_eq hlex sink
      cases hflush : sink.flushFault with
      | some cause =>
          rw [hflush] at hrun
          rw [output_succ_some, runTimes, hrun]
          cases sink.refusal (session.cells files) <;> rfl
      | none =>
          rw [hflush] at hrun
          rw [output_succ_none, runTimes, hrun, Sink.refusal_append]
          cases hrefused : sink.refusal (session.cells files) with
          | some fault => simp [Sink.taking_append_of_refusal hrefused]
          | none => simp [ih, hflush, Sink.taking_append, endFault_none]

end

end Session

/-- Runs in a row on a sink with room for `k` bytes, of a session whose files all have tokens.
Without a bound the runs would write all of their output; the sink holds the first `k` bytes of it.
Byte `k`, if there is one, tells the fault, and otherwise only passing the content on can fail. Any
pieces that make up the output of a run lead to the same end. -/
theorem runTimes_of_room (session : Session) (files : List FileTokens)
    (hlex : session.lex = .ok files) (sink : Sink) (k : Nat) (hroom : sink.room = some k)
    (n : Nat) :
    let cells := session.output files sink.flushFault n
    session.runTimes n { sink with room := none } =
      ({ sink with room := none, written := sink.written ++ cells.map Cell.byte },
        Session.endFault sink.flushFault n) ∧
    session.runTimes n sink =
      ({ sink with
          room := some (k - cells.length)
          written := sink.written ++ (cells.map Cell.byte).take k },
        match cells[k]? with
        | some cell =>
            some (if cell.inDocument then .document sink.fullFault else .disk sink.fullFault)
        | none => Session.endFault sink.flushFault n) ∧
    ∀ pieces : List Chunk, pieces.flatMap Chunk.cells = session.cells files →
      session.run sink =
        ((Session.writeChunks sink pieces).1,
          (Session.writeChunks sink pieces).2.or (sink.flushFault.map .disk)) := by
  intro cells
  refine ⟨?_, ?_, ?_⟩
  · rw [Session.runTimes_eq hlex]
    rfl
  · rw [Session.runTimes_eq hlex]
    simp only [Sink.taking, Sink.refusal, hroom, Option.bind_some, List.map_take]
    show (_, (cells[k]?.map _).or _) = _
    cases cells[k]? <;> rfl
  · intro pieces hpieces
    rw [Session.run_eq hlex, Session.writeChunks_eq, hpieces]

theorem runTimes_of_room_between_documents :
    let session : Session := ⟨⟨["a.math"], .json, false⟩, [⟨"a.math", ";"⟩]⟩
    let sink (k : Nat) : Sink := ⟨some k, .device "sink full", none, []⟩
    (session.runTimes 2 (sink 50)).2 = some (.disk (.device "sink full")) ∧
    (session.runTimes 2 (sink 51)).2 = some (.document (.device "sink full")) ∧
    (session.runTimes 2 (sink 102)).2 = none := by
  intro session sink
  have hlex : session.lex = .ok [⟨"a.math", [.symbol ';']⟩] := by rfl
  refine ⟨?_, ?_, ?_⟩
  · rw [(runTimes_of_room session _ hlex (sink 50) 50 rfl 2).2.1]
    decide +kernel
  · rw [(runTimes_of_room session _ hlex (sink 51) 51 rfl 2).2.1]
    decide +kernel
  · rw [(runTimes_of_room session _ hlex (sink 102) 102 rfl 2).2.1]
    decide +kernel

end StatementLexer
