import StatementLexer.Command.Run

/-! # How a session ends

Three passes over the files follow each other: all are read, then all have their tokens found, then
all are written. A pass ends with the first file that fails it, so the fault that is told depends on
the pass first and on the order of the files second, and nothing is written before the last pass.
The command loads its settings before all of these. Main statement: `session_all_or_nothing`.
-/

namespace StatementLexer

/-! ## Passes over a list -/

section

variable {α β γ ε : Type} {f : α → Except ε β} {g : β → Except ε γ}

theorem mapM_cons_of_ok {x : α} {y : β} (h : f x = .ok y) (xs : List α) :
    (x :: xs).mapM f = (xs.mapM f).map (y :: ·) := by
  rw [List.mapM_cons, h]
  cases xs.mapM f <;> rfl

theorem mapM_cons_of_error {x : α} {e : ε} (h : f x = .error e) (xs : List α) :
    (x :: xs).mapM f = .error e := by
  rw [List.mapM_cons, h]
  rfl

theorem mapM_eq_ok {value : α → β} {xs : List α} (h : ∀ x ∈ xs, f x = .ok (value x)) :
    xs.mapM f = .ok (xs.map value) := by
  induction xs with
  | nil => rfl
  | cons x xs ih =>
      have hx := h x List.mem_cons_self
      have hxs := ih fun y hy => h y (List.mem_cons_of_mem x hy)
      rw [mapM_cons_of_ok hx, hxs]
      rfl

theorem mapM_eq_error {before after : List α} {x : α} {e : ε}
    (hbefore : ∀ y ∈ before, ∃ z, f y = .ok z) (hx : f x = .error e) :
    (before ++ x :: after).mapM f = .error e := by
  induction before with
  | nil => exact mapM_cons_of_error hx after
  | cons y before ih =>
      obtain ⟨z, hy⟩ := hbefore y List.mem_cons_self
      have hrest := ih fun k hk => hbefore k (List.mem_cons_of_mem y hk)
      rw [List.cons_append, mapM_cons_of_ok hy, hrest]
      rfl

theorem exists_error_of_mapM {xs : List α} {e : ε} (h : xs.mapM f = .error e) :
    ∃ x ∈ xs, f x = .error e := by
  induction xs with
  | nil => cases h
  | cons x xs ih =>
      cases hx : f x with
      | error e' =>
          rw [mapM_cons_of_error hx] at h
          cases h
          exact ⟨x, List.mem_cons_self, hx⟩
      | ok y =>
          rw [mapM_cons_of_ok hx] at h
          cases hxs : xs.mapM f with
          | error e' =>
              rw [hxs] at h
              cases h
              obtain ⟨z, hz, hfault⟩ := ih hxs
              exact ⟨z, List.mem_cons_of_mem x hz, hfault⟩
          | ok ys =>
              rw [hxs] at h
              cases h

theorem mapM_of_mapM_ok {xs : List α} {ys : List β} (h : xs.mapM f = .ok ys) :
    ys.mapM g = xs.mapM fun x => (f x).bind g := by
  induction xs generalizing ys with
  | nil =>
      cases h
      rfl
  | cons x xs ih =>
      cases hx : f x with
      | error e =>
          rw [mapM_cons_of_error hx] at h
          cases h
      | ok y =>
          rw [mapM_cons_of_ok hx] at h
          cases hxs : xs.mapM f with
          | error e =>
              rw [hxs] at h
              cases h
          | ok zs =>
              rw [hxs] at h
              cases h
              rw [List.mapM_cons, List.mapM_cons, ih hxs, hx]
              rfl

end

/-! ## Bytes -/

namespace Text

theorem bytes_join (ss : List String) : bytes (String.join ss) = ss.flatMap bytes := by
  induction ss with
  | nil => rfl
  | cons s ss ih => rw [String.join_cons, bytes_append, ih, List.flatMap_cons]

end Text

def FileTokens.block (f : FileTokens) (format : OutputFormat) (summary several : Bool) :
    List UInt8 :=
  (f.chunks format summary several).flatMap fun chunk => Text.bytes chunk.text

/-- The blocks of the files in order. A block is made of the name and tokens of its file and the
options alone, and of whether the file is the only one. -/
def Options.output (options : Options) (tokens : String → List Token) : List UInt8 :=
  options.files.flatMap fun path =>
    FileTokens.block ⟨path, tokens path⟩ options.format options.summary (1 < options.files.length)

/-! ## Reading -/

def Shelf.Reads (shelf : Shelf) (path : String) : Prop :=
  ∃ text, shelf path = .ok text

/-- The file under a path can be read and has these tokens. -/
def Shelf.Lexes (shelf : Shelf) (path : String) (tokens : List Token) : Prop :=
  ∃ text, shelf path = .ok text ∧ SourceFile.tokens ⟨path, text⟩ = .ok tokens

namespace Session

variable {options : Options} {shelf : Shelf}

theorem readSource_of_ok {path text : String} (h : shelf path = .ok text) :
    readSource shelf path = .ok ⟨path, text⟩ := by
  simp [readSource, h]

theorem readSource_of_error {path : String} {cause : DiskFault} (h : shelf path = .error cause) :
    readSource shelf path = .error (.unreadable path cause) := by
  simp [readSource, h]

theorem start_of_ne_nil (h : options.files ≠ []) :
    start options shelf =
      (options.files.mapM (readSource shelf)).map fun sources => ⟨options, sources⟩ := by
  have hempty : options.files.isEmpty = false := by simpa using h
  simp [start, hempty]

theorem start_noInput_iff : start options shelf = .error .noInput ↔ options.files = [] := by
  constructor
  · intro h
    by_cases hne : options.files = []
    · exact hne
    · rw [start_of_ne_nil hne] at h
      cases hread : options.files.mapM (readSource shelf) with
      | error fault =>
          rw [hread] at h
          cases h
          obtain ⟨path, -, hpath⟩ := exists_error_of_mapM hread
          cases htext : shelf path with
          | error cause => simp [readSource_of_error htext] at hpath
          | ok text => simp [readSource_of_ok htext] at hpath
      | ok sources =>
          rw [hread] at h
          cases h
  · intro h
    simp [start, h]

theorem start_unreadable {before after : List String} {path : String} {cause : DiskFault}
    (hfiles : options.files = before ++ path :: after) (hbefore : ∀ p ∈ before, shelf.Reads p)
    (hpath : shelf path = .error cause) :
    start options shelf = .error (.unreadable path cause) := by
  have hread : ∀ p ∈ before, ∃ file, readSource shelf p = .ok file := by
    intro p hp
    obtain ⟨text, htext⟩ := hbefore p hp
    exact ⟨_, readSource_of_ok htext⟩
  rw [start_of_ne_nil (by simp [hfiles]), hfiles, mapM_eq_error hread (readSource_of_error hpath)]
  rfl

theorem exists_start (hne : options.files ≠ []) (hall : ∀ p ∈ options.files, shelf.Reads p) :
    ∃ session, start options shelf = .ok session := by
  rw [start_of_ne_nil hne]
  cases hread : options.files.mapM (readSource shelf) with
  | error fault =>
      obtain ⟨path, hmem, hpath⟩ := exists_error_of_mapM hread
      obtain ⟨text, htext⟩ := hall path hmem
      simp [readSource_of_ok htext] at hpath
  | ok sources => exact ⟨_, rfl⟩

/-- A session that starts has the options it was given and files that were all read. -/
theorem start_spec {session : Session} (h : start options shelf = .ok session) :
    session.options = options ∧
      options.files.mapM (readSource shelf) = .ok session.sources := by
  have hne : options.files ≠ [] := by
    intro hempty
    rw [start_noInput_iff.mpr hempty] at h
    cases h
  rw [start_of_ne_nil hne] at h
  cases hread : options.files.mapM (readSource shelf) with
  | error fault =>
      rw [hread] at h
      cases h
  | ok sources =>
      rw [hread] at h
      cases h
      exact ⟨rfl, rfl⟩

/-! ## Finding tokens -/

/-- The pass for tokens goes over the files as they were named. -/
theorem lex_of_start {session : Session} (h : start options shelf = .ok session) :
    session.lex = options.files.mapM fun path => (readSource shelf path).bind lexSource :=
  mapM_of_mapM_ok (start_spec h).2

theorem lexSource_of_lexes {path : String} {tokens : List Token} (h : shelf.Lexes path tokens) :
    (readSource shelf path).bind lexSource = .ok ⟨path, tokens⟩ := by
  obtain ⟨text, htext, htokens⟩ := h
  rw [readSource_of_ok htext]
  simp only [Except.bind]
  unfold lexSource
  rw [htokens]

theorem lexSource_of_fault {path text : String} {e : LexError} (htext : shelf path = .ok text)
    (he : SourceFile.tokens ⟨path, text⟩ = .error e) :
    (readSource shelf path).bind lexSource =
      .error (.lexing path e (e.diagnostic.render ⟨path, text⟩)) := by
  rw [readSource_of_ok htext]
  simp only [Except.bind]
  unfold lexSource
  rw [he]

variable {session : Session} (hstart : start options shelf = .ok session)

include hstart

/-- The first file without tokens is the fault of the session. -/
theorem lex_fault {before after : List String} {path text : String} {e : LexError}
    (hfiles : options.files = before ++ path :: after)
    (hbefore : ∀ p ∈ before, ∃ ts, shelf.Lexes p ts) (htext : shelf path = .ok text)
    (he : SourceFile.tokens ⟨path, text⟩ = .error e) :
    session.lex = .error (.lexing path e (e.diagnostic.render ⟨path, text⟩)) := by
  have hok : ∀ p ∈ before, ∃ listed, (readSource shelf p).bind lexSource = .ok listed := by
    intro p hp
    obtain ⟨ts, hts⟩ := hbefore p hp
    exact ⟨_, lexSource_of_lexes hts⟩
  rw [lex_of_start hstart, hfiles, mapM_eq_error hok (lexSource_of_fault htext he)]

theorem lex_ok {tokens : String → List Token}
    (hall : ∀ p ∈ options.files, shelf.Lexes p (tokens p)) :
    session.lex = .ok (options.files.map fun p => ⟨p, tokens p⟩) := by
  rw [lex_of_start hstart]
  exact mapM_eq_ok fun p hp => lexSource_of_lexes (hall p hp)

omit hstart

/-! ## Writing -/

theorem run_of_lex_error {fault : Fault} (h : session.lex = .error fault) (sink : Sink) :
    session.run sink = (sink, some fault) := by
  simp [run, chunks, h, Except.map]

theorem writeChunks_unlimited {sink : Sink} (hroom : sink.room = none) (pieces : List Chunk) :
    writeChunks sink pieces =
      ({ sink with written := sink.written ++ pieces.flatMap fun c => Text.bytes c.text },
        none) := by
  induction pieces generalizing sink with
  | nil => simp [writeChunks]
  | cons c pieces ih =>
      have hwrite : sink.write (Text.bytes c.text) =
          ({ sink with written := sink.written ++ Text.bytes c.text }, none) := by
        simp [Sink.write, hroom]
      have hnext : ({ sink with written := sink.written ++ Text.bytes c.text } : Sink).room = none :=
        hroom
      simp only [writeChunks, hwrite, ih hnext]
      simp

theorem run_of_chunks {pieces : List Chunk} (h : session.chunks = .ok pieces) {sink : Sink}
    (hroom : sink.room = none) (hflush : sink.flushFault = none) :
    session.run sink =
      ({ sink with written := sink.written ++ pieces.flatMap fun c => Text.bytes c.text },
        none) := by
  simp [run, h, writeChunks_unlimited hroom, hflush]

include hstart

theorem chunks_ok {tokens : String → List Token}
    (hall : ∀ p ∈ options.files, shelf.Lexes p (tokens p)) :
    ∃ pieces, session.chunks = .ok pieces ∧
      (pieces.flatMap fun c => Text.bytes c.text) = options.output tokens := by
  refine ⟨_, by rw [chunks, lex_ok hstart hall]; rfl, ?_⟩
  rw [(start_spec hstart).1]
  dsimp only
  rw [List.length_map, List.flatMap_map, List.flatMap_assoc]
  rfl

theorem run_ok {tokens : String → List Token}
    (hall : ∀ p ∈ options.files, shelf.Lexes p (tokens p)) {sink : Sink} (hroom : sink.room = none)
    (hflush : sink.flushFault = none) :
    session.run sink = ({ sink with written := sink.written ++ options.output tokens }, none) := by
  obtain ⟨pieces, hpieces, hbytes⟩ := chunks_ok hstart hall
  rw [run_of_chunks hpieces hroom hflush, hbytes]

omit hstart

/-- What one run adds to every sink that never fails, runs in a row add as often. -/
theorem runTimes_of_run {added : List UInt8}
    (hrun : ∀ sink : Sink, sink.room = none → sink.flushFault = none →
      session.run sink = ({ sink with written := sink.written ++ added }, none))
    (k : Nat) {sink : Sink} (hroom : sink.room = none) (hflush : sink.flushFault = none) :
    session.runTimes k sink =
      ({ sink with written := sink.written ++ (List.replicate k added).flatten }, none) := by
  induction k generalizing sink with
  | zero => simp [runTimes]
  | succ k ih =>
      have hnext : ({ sink with written := sink.written ++ added } : Sink).room = none := hroom
      simp only [runTimes, hrun sink hroom hflush, ih hnext hflush]
      simp [List.replicate_succ]

end Session

/-! ## The command -/

namespace Command

variable {w : World} {i : Invocation} (hparse : parse w.lookup w.arguments = .ok i)

include hparse

theorem run_of_settings_fault {fault : Fault} (h : loadSettings w i = .error fault) :
    run w = ⟨1, "", fault.report ++ "\n"⟩ := by
  simp [run, hparse, runSession, h, failed]

variable {settings : Settings} (hsettings : loadSettings w i = .ok settings)

include hsettings

theorem run_of_start_fault {fault : Fault}
    (h : Session.start (sessionOptions settings i) w.shelf = .error fault) :
    ∃ log, run w = ⟨1, "", log ++ fault.report ++ "\n"⟩ := by
  simp only [run, hparse, runSession, hsettings, h, failed]
  exact ⟨_, rfl⟩

section

variable {session : Session} {sink : Sink}
  (hstart : Session.start (sessionOptions settings i) w.shelf = .ok session)

include hstart

theorem run_of_session_fault {fault : Fault}
    (h : session.run Sink.unlimited = (sink, some fault)) :
    sink.written = [] ∧ ∃ log, run w = ⟨1, "", log ++ fault.report ++ "\n"⟩ := by
  cases hchunks : session.chunks with
  | error cause =>
      simp only [Session.run, hchunks, Prod.mk.injEq, Option.some.injEq] at h
      obtain ⟨rfl, rfl⟩ := h
      simp only [run, hparse, runSession, hsettings, hstart, hchunks, failed]
      exact ⟨rfl, _, rfl⟩
  | ok pieces =>
      rw [Session.run_of_chunks hchunks rfl rfl] at h
      cases h

/-- The command prints what its session writes to a sink that never fails. -/
theorem run_of_session_ok (h : session.run Sink.unlimited = (sink, none)) :
    (run w).exit = 0 ∧ Text.bytes (run w).stdout = sink.written := by
  cases hchunks : session.chunks with
  | error cause => simp [Session.run, hchunks] at h
  | ok pieces =>
      rw [Session.run_of_chunks hchunks rfl rfl] at h
      cases h
      simp only [run, hparse, runSession, hsettings, hstart, hchunks]
      simp [Sink.unlimited, Text.bytes_join, List.flatMap_map]

end

end Command

/-- A session without files has no input; otherwise the first file that cannot be read keeps it from
starting, and the first without tokens keeps it from writing anything. If all have tokens, every run
adds the blocks of the files in order to a sink that never fails. The command tells a fault of its
settings first, and prints nothing when it fails. -/
theorem session_all_or_nothing :
    (∀ (options : Options) (shelf : Shelf),
      (Session.start options shelf = .error .noInput ↔ options.files = []) ∧
      (∀ before path after cause, options.files = before ++ path :: after →
        (∀ p ∈ before, shelf.Reads p) → shelf path = .error cause →
        Session.start options shelf = .error (.unreadable path cause)) ∧
      (options.files ≠ [] → (∀ p ∈ options.files, shelf.Reads p) →
        ∃ session, Session.start options shelf = .ok session) ∧
      ∀ session, Session.start options shelf = .ok session →
        (∀ before path text after e, options.files = before ++ path :: after →
          (∀ p ∈ before, ∃ tokens, shelf.Lexes p tokens) → shelf path = .ok text →
          SourceFile.tokens ⟨path, text⟩ = .error e →
          ∀ sink, session.run sink =
            (sink, some (.lexing path e (e.diagnostic.render ⟨path, text⟩)))) ∧
        ∀ tokens, (∀ p ∈ options.files, shelf.Lexes p (tokens p)) →
          ∀ sink : Sink, sink.room = none → sink.flushFault = none →
            session.run sink =
              ({ sink with written := sink.written ++ options.output tokens }, none) ∧
            ∀ k, session.runTimes k sink = ({ sink with
              written := sink.written ++ (List.replicate k (options.output tokens)).flatten },
              none)) ∧
    ∀ (w : Command.World) (i : Command.Invocation), Command.parse w.lookup w.arguments = .ok i →
      (∀ fault, Command.loadSettings w i = .error fault →
        Command.run w = ⟨1, "", fault.report ++ "\n"⟩) ∧
      ∀ settings, Command.loadSettings w i = .ok settings →
        (∀ fault, Session.start (Command.sessionOptions settings i) w.shelf = .error fault →
          ∃ log, Command.run w = ⟨1, "", log ++ fault.report ++ "\n"⟩) ∧
        ∀ session, Session.start (Command.sessionOptions settings i) w.shelf = .ok session →
          (∀ sink fault, session.run Sink.unlimited = (sink, some fault) →
            sink.written = [] ∧ ∃ log, Command.run w = ⟨1, "", log ++ fault.report ++ "\n"⟩) ∧
          ∀ sink, session.run Sink.unlimited = (sink, none) →
            (Command.run w).exit = 0 ∧ Text.bytes (Command.run w).stdout = sink.written := by
  constructor
  · intro options shelf
    refine ⟨Session.start_noInput_iff, ?_, Session.exists_start, ?_⟩
    · intro before path after cause hfiles hbefore hpath
      exact Session.start_unreadable hfiles hbefore hpath
    · intro session hstart
      constructor
      · intro before path text after e hfiles hbefore htext he sink
        exact Session.run_of_lex_error (Session.lex_fault hstart hfiles hbefore htext he) sink
      · intro tokens hall sink hroom hflush
        have hrun : ∀ sink : Sink, sink.room = none → sink.flushFault = none →
            session.run sink =
              ({ sink with written := sink.written ++ options.output tokens }, none) := by
          intro sink hroom hflush
          exact Session.run_ok hstart hall hroom hflush
        exact ⟨hrun sink hroom hflush, fun k => Session.runTimes_of_run hrun k hroom hflush⟩
  · intro w i hparse
    refine ⟨fun fault h => Command.run_of_settings_fault hparse h, ?_⟩
    intro settings hsettings
    refine ⟨fun fault h => Command.run_of_start_fault hparse hsettings h, ?_⟩
    intro session hstart
    constructor
    · intro sink fault h
      exact Command.run_of_session_fault hparse hsettings hstart h
    · intro sink h
      exact Command.run_of_session_ok hparse hsettings hstart h

theorem session_all_or_nothing_folder_behind_fault :
    let shelf : Shelf := fun path =>
      if path = "a.math" then .ok "é=x;\n" else if path = "b.math" then .ok "é" else
        .error .isDirectory
    let e : LexError := .missingTerminator ⟨0, 2, 1, 1⟩
    Session.start ⟨["b.math", "c"], .text, false⟩ shelf =
      .error (.unreadable "c" .isDirectory) ∧
    Session.run ⟨⟨["a.math", "b.math"], .json, true⟩, [⟨"a.math", "é=x;\n"⟩, ⟨"b.math", "é"⟩]⟩
        Sink.unlimited =
      (Sink.unlimited, some (.lexing "b.math" e (e.diagnostic.render ⟨"b.math", "é"⟩))) ∧
    Session.run ⟨⟨["a.math", "a.math"], .text, true⟩, [⟨"a.math", "é=x;\n"⟩, ⟨"a.math", "é=x;\n"⟩]⟩
        Sink.unlimited =
      ({ Sink.unlimited with
        written := Sink.unlimited.written ++
          Options.output ⟨["a.math", "a.math"], .text, true⟩ fun _ =>
            [.name "é", .symbol '=', .name "x", .symbol ';'] }, none) ∧
    Command.run ⟨["--config", "c", "b.math"], fun _ => none, shelf, ""⟩ =
      ⟨1, "", (Fault.disk .isDirectory).report ++ "\n"⟩ := by
  intro shelf e
  have hlexes : shelf.Lexes "a.math"
      [.name "é", .symbol '=', .name "x", .symbol ';'] :=
    ⟨"é=x;\n", rfl, rfl⟩
  refine ⟨?_, ?_, ?_, ?_⟩
  · have hbefore : ∀ p ∈ ["b.math"], shelf.Reads p := by
      intro p hp
      obtain rfl := List.mem_singleton.mp hp
      exact ⟨"é", rfl⟩
    exact (session_all_or_nothing.1 ⟨["b.math", "c"], .text, false⟩ shelf).2.1 ["b.math"] "c" []
      .isDirectory rfl hbefore rfl
  · have hbefore : ∀ p ∈ ["a.math"], ∃ tokens, shelf.Lexes p tokens := by
      simpa using ⟨_, hlexes⟩
    exact ((session_all_or_nothing.1 ⟨["a.math", "b.math"], .json, true⟩ shelf).2.2.2 _ rfl).1
      ["a.math"] "b.math" "é" [] e rfl hbefore rfl rfl Sink.unlimited
  · have hall : ∀ p ∈ ["a.math", "a.math"], shelf.Lexes p
        [.name "é", .symbol '=', .name "x", .symbol ';'] := by
      simpa using hlexes
    exact (((session_all_or_nothing.1 ⟨["a.math", "a.math"], .text, true⟩ shelf).2.2.2 _ rfl).2
      (fun _ => [.name "é", .symbol '=', .name "x", .symbol ';']) hall Sink.unlimited rfl rfl).1
  · exact (session_all_or_nothing.2 ⟨["--config", "c", "b.math"], fun _ => none, shelf, ""⟩
      ⟨["b.math"], none, some "c", false, false, false⟩ rfl).1 _ rfl

end StatementLexer
