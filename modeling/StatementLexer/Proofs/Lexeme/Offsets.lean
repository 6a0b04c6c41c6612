import StatementLexer.Proofs.Lexeme.Location
import StatementLexer.Proofs.Text.Boundary

/-! # The pass on byte offsets

The pass collects the characters of a lexeme as it reads them. The same pass can be made with offsets
alone: it keeps the whole text and marks in it, looks at the text from its position on before each
move, and cuts a lexeme out between two offsets. Every look and every lexeme is then a cut that can
fail. Here both passes are shown to be one: no cut fails, and the rounds are no more than the
characters of the text.
-/

namespace StatementLexer

inductive Halt where
  /-- The text has a fault. -/
  | fault (e : LexError)
  /-- The text cannot be cut at these offsets. -/
  | badCut (start stop : Nat)
  deriving DecidableEq, Repr

namespace Text

/-- The text between two offsets, where the text can be cut there. -/
def cut (cs : List Char) (start stop : Nat) : Except Halt (List Char) :=
  match slice? start stop cs with
  | some piece => .ok piece
  | none => .error (.badCut start stop)

theorem cut_eq_ok_iff {cs piece : List Char} {start stop : Nat} :
    cut cs start stop = .ok piece ↔ slice? start stop cs = some piece := by
  unfold cut
  cases slice? start stop cs <;> simp

/-- A cut asks for offsets in order, within the text and both between characters. -/
theorem exists_cut_iff {cs : List Char} {start stop : Nat} :
    (∃ piece, cut cs start stop = .ok piece) ↔
      start ≤ stop ∧ stop ≤ byteLength cs ∧ IsBoundary cs start ∧ IsBoundary cs stop := by
  simp only [cut_eq_ok_iff, ← slice?_isSome_iff, Option.isSome_iff_exists]

theorem cut_append (before piece after : List Char) :
    cut (before ++ (piece ++ after)) (byteLength before) (byteLength before + byteLength piece) =
      .ok piece :=
  cut_eq_ok_iff.mpr (slice?_eq_some_iff.mpr ⟨before, after, rfl, rfl, rfl⟩)

end Text

/-- The state of a pass that holds no characters: its position, where an open string and a run of
ordinary characters begin, and the lexemes found, the last one first. -/
structure Passage where
  here : Mark
  opened : Option Mark
  pending : Option Mark
  found : List Lexeme
  deriving DecidableEq, Repr

namespace Passage

def initial : Passage := ⟨Mark.origin, none, none, []⟩

section

variable (source : List Char) (p : Passage)

def atEnd : Bool :=
  Text.byteLength source ≤ p.here.position

def remaining : Except Halt (List Char) :=
  Text.cut source p.here.position (Text.byteLength source)

def current : Except Halt Char := do
  return (← p.remaining source).headD '\x00'

def endsLine : Except Halt Bool := do
  return Splitting.endsLine (← p.remaining source).tail

def advance : Except Halt Passage := do
  match ← p.remaining source with
  | [] => return p
  | c :: _ => return { p with here := p.here.after c }

/-- The span of the current character, empty at the end. -/
def span : Except Halt Span := do
  match ← p.remaining source with
  | [] => return p.here.spanTo p.here.position
  | c :: _ => return p.here.spanOf c

/-- The text between a mark and an offset is a lexeme, unless it is empty. -/
def push (start : Mark) (stop : Nat) : Except Halt Passage := do
  if start.position < stop then
    let text ← Text.cut source start.position stop
    return { p with found := ⟨String.ofList text, start.spanTo stop⟩ :: p.found }
  else return p

def flush : Except Halt Passage :=
  match p.pending with
  | some start => push source { p with pending := none } start p.here.position
  | none => .ok p

def emit : Except Halt Passage := do
  let span ← p.span source
  let text ← Text.cut source span.start span.stop
  return { p with found := ⟨String.ofList text, span⟩ :: p.found }

def missingTerminator : Except Halt LexError := do
  let c ← p.current source
  if c = '\n' ∧ 0 < p.here.position then
    let start := p.here.position + 1
    return .missingTerminator ⟨start, start, p.here.line + 1, 1⟩
  else return .missingTerminator (← p.span source)

def unterminated (start : Mark) : Except Halt LexError := do
  return .unterminatedQuote (start.spanTo (← p.span source).stop)

def endStatement : Except Halt Passage := do
  match p.opened with
  | some start => throw (.fault (← p.unterminated source start))
  | none =>
      let flushed ← p.flush source
      let ended ← flushed.emit source
      ended.advance source

def stepPlain (c : Char) : Except Halt Passage := do
  if c = '"' then
    let flushed ← p.flush source
    advance source { flushed with opened := some flushed.here }
  else if Text.isSeparator c then
    let flushed ← p.flush source
    flushed.advance source
  else if isSymbol c then
    let flushed ← p.flush source
    let emitted ← flushed.emit source
    emitted.advance source
  else
    match p.pending with
    | some _ => p.advance source
    | none => advance source { p with pending := some p.here }

def stepQuote (start : Mark) (c : Char) : Except Halt Passage := do
  if c = '"' then
    let closed ← p.push source start (p.here.position + c.utf8Size)
    advance source { closed with opened := none }
  else if c = '\n' then throw (.fault (← p.unterminated source start))
  else p.advance source

def round : Except Halt Passage := do
  let c ← p.current source
  if c = '\n' ∧ p.here.position = 0 then throw (.fault (← p.missingTerminator source))
  else if ← p.endsLine source then
    if c = terminator then p.endStatement source
    else throw (.fault (← p.missingTerminator source))
  else
    match p.opened with
    | some start => p.stepQuote source start c
    | none => p.stepPlain source c

def finish : Except Halt (List Lexeme) := do
  match p.opened with
  | some start => throw (.fault (← p.unterminated source start))
  | none => return (← p.flush source).found.reverse

end

/-- Round after round up to the end of the text, but no more than `n` rounds; `none` if they are not
enough. -/
def runFor (source : List Char) (n : Nat) (p : Passage) : Option (Except Halt (List Lexeme)) :=
  if p.atEnd source then some (p.finish source)
  else
    match n with
    | 0 => none
    | n + 1 =>
        match p.round source with
        | .error h => some (.error h)
        | .ok next => runFor source n next

/-! ## Cuts at marks -/

section

variable {seen : List Char} {p : Passage}

theorem remaining_eq (h : p.here = Mark.start seen) (rest : List Char) :
    p.remaining (seen ++ rest) = .ok rest := by
  have hcut := Text.cut_append seen rest []
  rw [List.append_nil, ← Text.byteLength_append] at hcut
  rw [remaining, h, Mark.start_position, hcut]

theorem atEnd_eq (h : p.here = Mark.start seen) (rest : List Char) :
    p.atEnd (seen ++ rest) = rest.isEmpty := by
  rw [atEnd, h, Mark.start_position, Text.byteLength_append]
  cases rest with
  | nil => simp
  | cons c rest =>
      have hpos := c.utf8Size_pos
      rw [Text.byteLength_cons, List.isEmpty_cons, decide_eq_false_iff_not]
      omega

theorem current_eq (h : p.here = Mark.start seen) (c : Char) (rest : List Char) :
    p.current (seen ++ c :: rest) = .ok c := by
  rw [current, remaining_eq h]
  rfl

theorem endsLine_eq (h : p.here = Mark.start seen) (c : Char) (rest : List Char) :
    p.endsLine (seen ++ c :: rest) = .ok (Splitting.endsLine rest) := by
  rw [endsLine, remaining_eq h]
  rfl

theorem advance_eq (h : p.here = Mark.start seen) (c : Char) (rest : List Char) :
    p.advance (seen ++ c :: rest) = .ok { p with here := p.here.after c } := by
  rw [advance, remaining_eq h]
  rfl

theorem span_eq (h : p.here = Mark.start seen) (c : Char) (rest : List Char) :
    p.span (seen ++ c :: rest) = .ok (p.here.spanOf c) := by
  rw [span, remaining_eq h]
  rfl

theorem span_end (h : p.here = Mark.start seen) :
    p.span seen = .ok (p.here.spanTo p.here.position) := by
  have hlook := remaining_eq h []
  rw [List.append_nil] at hlook
  rw [span, hlook]
  rfl

theorem emit_eq (h : p.here = Mark.start seen) (c : Char) (rest : List Char) :
    p.emit (seen ++ c :: rest) =
      .ok { p with found := ⟨String.singleton c, p.here.spanOf c⟩ :: p.found } := by
  have hcut : Text.cut (seen ++ c :: rest) (p.here.spanOf c).start (p.here.spanOf c).stop =
      .ok [c] := by
    have hone := Text.cut_append seen [c] rest
    rw [h]
    simpa [Mark.spanOf, Mark.spanTo] using hone
  rw [emit, span_eq h]
  show (Text.cut _ _ _ >>= _) = _
  rw [hcut]
  rfl

theorem push_eq (p : Passage) (before : List Char) {piece : List Char} (hpiece : piece ≠ [])
    (after : List Char) {stop : Nat}
    (hstop : stop = Text.byteLength before + Text.byteLength piece) :
    p.push (before ++ (piece ++ after)) (Mark.start before) stop =
      .ok { p with found := ⟨String.ofList piece, (Mark.start before).spanTo stop⟩ :: p.found } := by
  have hlt : (Mark.start before).position < stop := by
    have hpos : Text.byteLength piece ≠ 0 := fun h => hpiece (Text.byteLength_eq_zero h)
    rw [Mark.start_position]
    omega
  rw [push, if_pos hlt, Mark.start_position, hstop, Text.cut_append]
  rfl

end

end Passage

/-! ## One pass -/

def Mode.pending? : Mode → Option Mark
  | .run start _ => some start
  | _ => none

namespace Splitting

/-- A state without the characters that it has collected. -/
def outline (s : Splitting) : Passage :=
  ⟨s.here, s.mode.opening?, s.mode.pending?, s.found⟩

/-- A state that has read `seen`: its marks stand where they should, and what it collects is not
empty. -/
structure Standing (seen : List Char) (s : Splitting) : Prop where
  located : s.Located seen
  solid : ∀ start taken, s.mode.collected? = some (start, taken) → taken ≠ []

theorem standing_initial : initial.Standing [] where
  located := located_initial
  solid := by simp [initial, Mode.collected?]

theorem read_collected (s : Splitting) (c : Char) {start : Mark} {taken : List Char}
    (h : (s.read c).mode.collected? = some (start, taken)) : taken.head? = some c := by
  cases hopen : s.mode.opening? with
  | none =>
      have hbetween : s.flush.mode.collected? = none := by rw [flush_mode hopen]; rfl
      rw [read_of_opening_none hopen] at h
      rcases char_cases c with rfl | hsep | hsym | hord
      · rw [stepPlain_quote] at h
        cases h
        rfl
      · rw [stepPlain_separator s hsep] at h
        cases hbetween.symm.trans h
      · rw [stepPlain_symbol s hsym] at h
        cases hbetween.symm.trans h
      · cases hm : s.mode with
        | between =>
            rw [stepPlain_ordinary_between hm hord] at h
            cases h
            rfl
        | run begun collected =>
            rw [stepPlain_ordinary_run hm hord] at h
            cases h
            rfl
        | quote begun collected => simp [hm] at hopen
  | some begun =>
      cases hm : s.mode with
      | between => simp [hm] at hopen
      | run start taken => simp [hm] at hopen
      | quote begun collected =>
          by_cases hc : c = '"'
          · simp only [read, hm, if_pos hc] at h
            cases h
          · simp only [read, hm, if_neg hc] at h
            cases h
            rfl

theorem Standing.step {seen : List Char} {s s' : Splitting} (h : s.Standing seen) {c : Char}
    {rest : List Char} (hstep : s.step c rest = .ok s') : s'.Standing (seen ++ [c]) := by
  obtain ⟨rfl, -, -⟩ := step_spec hstep
  refine ⟨h.located.read c, fun start taken hcollected hempty => ?_⟩
  have hhead := read_collected s c hcollected
  rw [hempty] at hhead
  cases hhead

theorem outline_advance {seen : List Char} {s : Splitting} (h : s.here = Mark.start seen)
    (c : Char) (rest : List Char) :
    s.outline.advance (seen ++ c :: rest) = .ok (s.advance c).outline :=
  Passage.advance_eq h c rest

theorem outline_emit {seen : List Char} {s : Splitting} (h : s.here = Mark.start seen)
    (c : Char) (rest : List Char) :
    s.outline.emit (seen ++ c :: rest) = .ok (s.emit c).outline :=
  Passage.emit_eq h c rest

namespace Standing

variable {seen : List Char} {s : Splitting}

theorem outline_here (h : s.Standing seen) : s.outline.here = Mark.start seen :=
  h.located.here

theorem flush_here (h : s.Standing seen) : s.flush.here = Mark.start seen :=
  h.located.flush.here

/-- Cutting out what a state has collected, together with what stands behind it. -/
theorem push_collected (h : s.Standing seen) {start : Mark} {taken : List Char}
    (hm : s.mode.collected? = some (start, taken)) (p : Passage) (more rest : List Char)
    {stop : Nat} (hstop : stop = s.here.position + Text.byteLength more) :
    p.push (seen ++ (more ++ rest)) start stop =
      .ok { p with
        found := ⟨String.ofList (taken.reverse ++ more), start.spanTo stop⟩ :: p.found } := by
  obtain ⟨before, hseen, rfl⟩ := h.located.collected start taken hm
  have hpiece : taken.reverse ++ more ≠ [] := by simp [h.solid _ _ hm]
  have hsource : seen ++ (more ++ rest) = before ++ ((taken.reverse ++ more) ++ rest) := by
    simp [hseen]
  rw [hsource]
  apply p.push_eq before hpiece rest
  rw [hstop, h.located.here, Mark.start_position, hseen, Text.byteLength_append,
    Text.byteLength_append, Nat.add_assoc]

theorem outline_flush (h : s.Standing seen) (rest : List Char) :
    s.outline.flush (seen ++ rest) = .ok s.flush.outline := by
  cases hm : s.mode with
  | between => simp [Passage.flush, outline, flush, hm, Mode.pending?]
  | quote start taken => simp [Passage.flush, outline, flush, hm, Mode.pending?]
  | run start taken =>
      have hcollected : s.mode.collected? = some (start, taken) := by rw [hm]; rfl
      have hpush := h.push_collected hcollected { s.outline with pending := none } [] rest rfl
      simpa [Passage.flush, outline, flush, hm, Mode.pending?] using hpush

theorem outline_missingTerminator (h : s.Standing seen) (c : Char) (rest : List Char) :
    s.outline.missingTerminator (seen ++ c :: rest) = .ok (s.missingTerminator c) := by
  rw [Passage.missingTerminator, Passage.current_eq h.outline_here, Passage.span_eq h.outline_here]
  unfold Splitting.missingTerminator
  show (if c = '\n' ∧ 0 < s.here.position then _ else _) = _
  split <;> rfl

theorem outline_unterminated (h : s.Standing seen) (start : Mark) (c : Char) (rest : List Char) :
    s.outline.unterminated (seen ++ c :: rest) start = .ok (s.unterminated start c) := by
  rw [Passage.unterminated, Passage.span_eq h.outline_here]
  rfl

/-- A lexeme of one character, behind a run that it ends. -/
theorem outline_flush_emit (h : s.Standing seen) (c : Char) (rest : List Char) :
    (do (← (← s.outline.flush (seen ++ c :: rest)).emit (seen ++ c :: rest)).advance
          (seen ++ c :: rest)) = .ok ((s.flush.emit c).advance c).outline := by
  rw [h.outline_flush]
  show (s.flush.outline.emit _ >>= _) = _
  rw [outline_emit h.flush_here]
  apply outline_advance
  exact h.flush_here

theorem outline_stepPlain (h : s.Standing seen) (hopen : s.mode.opening? = none) (c : Char)
    (rest : List Char) :
    s.outline.stepPlain (seen ++ c :: rest) c = .ok (s.stepPlain c).outline := by
  unfold Passage.stepPlain
  rcases char_cases c with rfl | hsep | hsym | hord
  · have hquote : { s.flush.outline with opened := some s.flush.outline.here } =
        outline { s.flush with mode := .quote s.here ['"'] } := by
      simp [outline, flush_mode hopen, Mode.pending?]
    rw [if_pos rfl, h.outline_flush, stepPlain_quote]
    show Passage.advance _ { s.flush.outline with opened := some s.flush.outline.here } = _
    rw [hquote]
    apply outline_advance
    exact h.flush_here
  · rw [if_neg (ne_quote_of_separator hsep), if_pos hsep, h.outline_flush,
      stepPlain_separator s hsep]
    exact outline_advance h.flush_here c rest
  · rw [if_neg (ne_quote_of_symbol hsym), if_neg (by simp [not_separator_of_symbol hsym]),
      if_pos hsym, stepPlain_symbol s hsym]
    exact h.outline_flush_emit c rest
  · obtain ⟨hquote, hsep, hsym⟩ := isOrdinary_iff.mp hord
    rw [if_neg hquote, if_neg (by simp [hsep]), if_neg (by simp [hsym])]
    cases hm : s.mode with
    | between =>
        rw [stepPlain_ordinary_between hm hord]
        simp only [outline, hm, Mode.pending?]
        exact Passage.advance_eq h.located.here c rest
    | run start taken =>
        rw [stepPlain_ordinary_run hm hord]
        simp only [outline, hm, Mode.pending?]
        exact Passage.advance_eq h.located.here c rest
    | quote start taken => simp [hm] at hopen

theorem outline_endStatement (h : s.Standing seen) (c : Char) (rest : List Char) :
    s.outline.endStatement (seen ++ c :: rest) =
      ((s.endStatement c).map outline).mapError .fault := by
  have hended := h.outline_flush_emit c rest
  unfold Passage.endStatement endStatement
  cases hm : s.mode with
  | quote start taken =>
      have hopened : s.outline.opened = some start := congrArg Mode.opening? hm
      rw [hopened]
      show (s.outline.unterminated _ start >>= _) = _
      rw [h.outline_unterminated]
      rfl
  | _ =>
      have hopened : s.outline.opened = none := congrArg Mode.opening? hm
      rw [hopened]
      exact hended

theorem outline_stepQuote (h : s.Standing seen) {start : Mark} {taken : List Char}
    (hm : s.mode = .quote start taken) (c : Char) (rest : List Char) :
    s.outline.stepQuote (seen ++ c :: rest) start c =
      ((s.stepQuote start taken c).map outline).mapError .fault := by
  have hcollected : s.mode.collected? = some (start, taken) := by rw [hm]; rfl
  have hopened : s.outline = outline { s with mode := .quote start (c :: taken) } := by
    rw [outline, hm]
    rfl
  have hbetween (ls : List Lexeme) : { s.outline with opened := none, found := ls } =
      outline { s with mode := .between, found := ls } := by
    rw [outline, hm]
    rfl
  unfold Passage.stepQuote stepQuote
  by_cases hquote : c = '"'
  · have hclosed : s.outline.push (seen ++ c :: rest) start (s.here.position + c.utf8Size) = .ok
        { s.outline with found :=
          ⟨String.ofList (c :: taken).reverse, start.spanTo (s.here.position + c.utf8Size)⟩ ::
            s.found } := by
      rw [List.reverse_cons]
      apply h.push_collected hcollected s.outline [c] rest
      simp
    rw [if_pos hquote, if_pos hquote]
    show (s.outline.push _ start (s.here.position + c.utf8Size) >>= _) = _
    rw [hclosed]
    show Passage.advance _ { s.outline with opened := none, found := _ :: s.found } = _
    rw [hbetween]
    apply outline_advance
    exact h.located.here
  · rw [if_neg hquote, if_neg hquote]
    by_cases hbreak : c = '\n'
    · rw [if_pos hbreak, if_pos hbreak, h.outline_unterminated]
      rfl
    · rw [if_neg hbreak, if_neg hbreak, hopened]
      apply outline_advance
      exact h.located.here

theorem outline_round (h : s.Standing seen) (c : Char) (rest : List Char) :
    s.outline.round (seen ++ c :: rest) = ((s.step c rest).map outline).mapError .fault := by
  rw [Passage.round, Passage.current_eq h.outline_here, Passage.endsLine_eq h.outline_here]
  unfold Splitting.step
  show (if c = '\n' ∧ s.here.position = 0 then _ else if endsLine rest = true then _ else _) = _
  by_cases hfirst : c = '\n' ∧ s.here.position = 0
  · rw [if_pos hfirst, if_pos hfirst, h.outline_missingTerminator]
    rfl
  · rw [if_neg hfirst, if_neg hfirst]
    by_cases hend : endsLine rest = true
    · rw [if_pos hend, if_pos hend]
      by_cases hterminator : c = terminator
      · rw [if_pos hterminator, if_pos hterminator, h.outline_endStatement]
      · rw [if_neg hterminator, if_neg hterminator, h.outline_missingTerminator]
        rfl
    · rw [if_neg hend, if_neg hend]
      cases hm : s.mode with
      | quote start taken =>
          have hopened : s.outline.opened = some start := congrArg Mode.opening? hm
          rw [hopened]
          exact h.outline_stepQuote hm c rest
      | _ =>
          have hopen : s.mode.opening? = none := congrArg Mode.opening? hm
          have hopened : s.outline.opened = none := hopen
          rw [hopened]
          exact h.outline_stepPlain hopen c rest

theorem outline_finish (h : s.Standing seen) :
    s.outline.finish seen = s.finish.mapError .fault := by
  have hflush := h.outline_flush []
  rw [List.append_nil] at hflush
  unfold Passage.finish finish
  cases hm : s.mode with
  | quote start taken =>
      have hopened : s.outline.opened = some start := congrArg Mode.opening? hm
      simp only [hopened, Passage.unterminated, Passage.span_end h.outline_here]
      rfl
  | _ =>
      have hopened : s.outline.opened = none := congrArg Mode.opening? hm
      rw [hopened]
      show (s.outline.flush seen >>= _) = _
      rw [hflush]
      rfl

/-- From wherever the pass on characters stands, the pass on offsets comes to the same end, in no more
rounds than there are characters left. -/
theorem runFor_outline (h : s.Standing seen) {rest : List Char} {n : Nat} (hn : rest.length ≤ n) :
    Passage.runFor (seen ++ rest) n s.outline =
      some (((s.scan rest).bind finish).mapError .fault) := by
  induction rest generalizing seen s n with
  | nil =>
      have hend : s.outline.atEnd (seen ++ []) = true := Passage.atEnd_eq h.outline_here []
      unfold Passage.runFor
      rw [if_pos hend, List.append_nil, h.outline_finish]
      rfl
  | cons c rest ih =>
      have hmore : s.outline.atEnd (seen ++ c :: rest) = false :=
        Passage.atEnd_eq h.outline_here (c :: rest)
      obtain ⟨n, rfl⟩ : ∃ k, n = k + 1 := ⟨n - 1, by rw [List.length_cons] at hn; omega⟩
      unfold Passage.runFor
      rw [hmore, if_neg Bool.false_ne_true, h.outline_round]
      cases hstep : s.step c rest with
      | error e =>
          rw [scan_cons_of_error hstep]
          rfl
      | ok t =>
          have hrest := ih (h.step hstep) (n := n) (by simpa using hn)
          rw [List.append_assoc, List.singleton_append] at hrest
          rw [scan_cons_of_ok hstep]
          exact hrest

end Standing

end Splitting

/-- With as many rounds as there are characters, the pass on offsets gives what splitting gives, and
no cut of it fails. -/
theorem Passage.runFor_initial (source : String) {n : Nat} (h : source.length ≤ n) :
    runFor source.toList n initial = some ((split source).mapError .fault) := by
  have hlength : source.toList.length ≤ n := by rwa [String.length_toList]
  exact Splitting.standing_initial.runFor_outline hlength

end StatementLexer
