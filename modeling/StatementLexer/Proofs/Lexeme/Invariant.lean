import StatementLexer.Proofs.Lexeme.Offsets

/-! # What every round of the pass keeps

The pass remembers where a run or a string began, and the lexemes it has found. Before each character
these fit together: at most one of the two is going on, the text since its beginning holds nothing
that would have ended it, and the lexemes stand in order before it. What a character can do is said
once, by `Reads`; the invariant is kept by each of its cases and so by every run. It follows that the
tests which the pass makes for good measure never come out true. Main statement:
`reached_consistent`.
-/

namespace StatementLexer

/-- What may be collected: a run is not empty and holds ordinary characters, and a string holds its
opening quote and nothing that would close it or end its line. -/
def Mode.Collects : Mode → Prop
  | .between => True
  | .run _ taken => taken ≠ [] ∧ ∀ c ∈ taken, isOrdinary c = true
  | .quote _ taken => ∃ inside, taken.reverse = '"' :: inside ∧ '"' ∉ inside ∧ '\n' ∉ inside

theorem Mode.Collects.ne_nil {mode : Mode} (h : mode.Collects) {start : Mark} {taken : List Char}
    (hm : mode.collected? = some (start, taken)) : taken ≠ [] := by
  cases mode with
  | between => cases hm
  | run begun collected =>
      cases hm
      exact h.1
  | quote begun collected =>
      cases hm
      obtain ⟨inside, hreverse, -, -⟩ := h
      rintro rfl
      cases hreverse

namespace Splitting

/-! ## What a character does -/

inductive Reads (s : Splitting) (c : Char) : Splitting → Prop where
  /-- A separator ends a run. -/
  | separator : s.mode.opening? = none → Text.isSeparator c = true →
      Reads s c (s.flush.advance c)
  /-- A symbol ends a run and is a lexeme. -/
  | symbol : s.mode.opening? = none → isSymbol c = true →
      Reads s c ((s.flush.emit c).advance c)
  /-- A double quote ends a run and opens a string. -/
  | opening : s.mode.opening? = none → c = '"' →
      Reads s c ({ s.flush with mode := .quote s.here [c] }.advance c)
  /-- An ordinary character begins a run. -/
  | beginning : s.mode = .between → isOrdinary c = true →
      Reads s c ({ s with mode := .run s.here [c] }.advance c)
  /-- An ordinary character goes on with a run. -/
  | running (start : Mark) (taken : List Char) : s.mode = .run start taken →
      isOrdinary c = true → Reads s c ({ s with mode := .run start (c :: taken) }.advance c)
  /-- A double quote closes the string. -/
  | closing (start : Mark) (taken : List Char) : s.mode = .quote start taken → c = '"' →
      Reads s c ({ s with
        mode := .between
        found := ⟨String.ofList (c :: taken).reverse,
          start.spanTo (s.here.position + c.utf8Size)⟩ :: s.found }.advance c)
  /-- Any other character goes on with the string. -/
  | quoting (start : Mark) (taken : List Char) : s.mode = .quote start taken → c ≠ '"' →
      Reads s c ({ s with mode := .quote start (c :: taken) }.advance c)

theorem reads_stepPlain {s : Splitting} (h : s.mode.opening? = none) (c : Char) :
    s.Reads c (s.stepPlain c) := by
  rcases char_cases c with rfl | hsep | hsym | hord
  · rw [stepPlain_quote]
    exact .opening h rfl
  · rw [stepPlain_separator s hsep]
    exact .separator h hsep
  · rw [stepPlain_symbol s hsym]
    exact .symbol h hsym
  · cases hm : s.mode with
    | between =>
        rw [stepPlain_ordinary_between hm hord]
        exact .beginning hm hord
    | run start taken =>
        rw [stepPlain_ordinary_run hm hord]
        exact .running start taken hm hord
    | quote start taken => simp [hm] at h

theorem reads_read (s : Splitting) (c : Char) : s.Reads c (s.read c) := by
  cases hm : s.mode with
  | between =>
      have hopen : s.mode.opening? = none := congrArg Mode.opening? hm
      rw [read_of_opening_none hopen]
      exact reads_stepPlain hopen c
  | run start taken =>
      have hopen : s.mode.opening? = none := congrArg Mode.opening? hm
      rw [read_of_opening_none hopen]
      exact reads_stepPlain hopen c
  | quote start taken =>
      unfold read
      simp only [hm]
      split
      next hc => exact .closing start taken hm hc
      next hc => exact .quoting start taken hm hc

/-! ## The invariant -/

/-- Where the text begins that is not yet part of a lexeme. -/
def frontier (s : Splitting) : Nat :=
  match s.mode with
  | .between => s.here.position
  | .run start _ => start.position
  | .quote start _ => start.position

theorem frontier_of_between {s : Splitting} (hm : s.mode = .between) :
    s.frontier = s.here.position := by
  unfold frontier
  rw [hm]

theorem frontier_of_collected {s : Splitting} {start : Mark} {taken : List Char}
    (hm : s.mode.collected? = some (start, taken)) : s.frontier = start.position := by
  unfold frontier
  cases hmode : s.mode <;> rw [hmode] at hm <;> cases hm <;> rfl

/-- The lexemes found stand in order before the frontier, the last one first, and none is empty. -/
structure Ordered (s : Splitting) : Prop where
  rising : s.found.Pairwise fun later earlier => earlier.span.stop ≤ later.span.start
  solid : ∀ l ∈ s.found, l.span.start < l.span.stop
  below : ∀ l ∈ s.found, l.span.stop ≤ s.frontier

theorem Ordered.of_le {s s' : Splitting} (h : s.Ordered) (hfound : s'.found = s.found)
    (hle : s.frontier ≤ s'.frontier) : s'.Ordered := by
  obtain ⟨hrising, hsolid, hbelow⟩ := h
  refine ⟨hfound ▸ hrising, hfound ▸ hsolid, fun l hl => ?_⟩
  exact Nat.le_trans (hbelow l (hfound ▸ hl)) hle

/-- A lexeme that begins at the frontier or behind it, and ends before the new frontier. -/
theorem Ordered.push {s s' : Splitting} (h : s.Ordered) {l : Lexeme}
    (hfound : s'.found = l :: s.found) (hstart : s.frontier ≤ l.span.start)
    (hsolid : l.span.start < l.span.stop) (hstop : l.span.stop ≤ s'.frontier) : s'.Ordered := by
  have hbefore : ∀ m ∈ s.found, m.span.stop ≤ l.span.start := fun m hm =>
    Nat.le_trans (h.below m hm) hstart
  refine ⟨?_, ?_, ?_⟩
  · rw [hfound]
    exact List.pairwise_cons.mpr ⟨hbefore, h.rising⟩
  · rw [hfound]
    exact List.forall_mem_cons.mpr ⟨hsolid, h.solid⟩
  · rw [hfound]
    refine List.forall_mem_cons.mpr ⟨hstop, fun m hm => ?_⟩
    have := hbefore m hm
    omega

/-- What holds before each character, `seen` being what is read. -/
structure Sound (seen : List Char) (s : Splitting) : Prop where
  located : s.Located seen
  collects : s.mode.Collects
  ordered : s.Ordered

theorem sound_initial : initial.Sound [] where
  located := located_initial
  collects := trivial
  ordered := ⟨List.Pairwise.nil, by simp [initial], by simp [initial]⟩

/-- What is collected reaches from its beginning to the current position. -/
theorem Located.cut_collected {seen : List Char} {s : Splitting} (h : s.Located seen) {start : Mark}
    {taken : List Char} (hm : s.mode.collected? = some (start, taken)) (rest : List Char) :
    Text.cut (seen ++ rest) start.position s.here.position = .ok taken.reverse ∧
      s.here.position = start.position + Text.byteLength taken.reverse := by
  obtain ⟨before, rfl, rfl⟩ := h.collected start taken hm
  have hposition : s.here.position =
      Text.byteLength before + Text.byteLength taken.reverse := by
    rw [h.here, Mark.start_position, Text.byteLength_append]
  rw [Mark.start_position, hposition, List.append_assoc]
  exact ⟨Text.cut_append before taken.reverse rest, rfl⟩

namespace Sound

variable {seen : List Char} {s : Splitting}

theorem standing (h : s.Sound seen) : s.Standing seen :=
  ⟨h.located, fun _ _ hm => h.collects.ne_nil hm⟩

theorem lt_here (h : s.Sound seen) {start : Mark} {taken : List Char}
    (hm : s.mode.collected? = some (start, taken)) : start.position < s.here.position := by
  have hpos : 0 < Text.byteLength taken.reverse := by
    apply Text.byteLength_pos
    rw [ne_eq, List.reverse_eq_nil_iff]
    exact h.collects.ne_nil hm
  have hreach := (h.located.cut_collected hm []).2
  omega

theorem frontier_le (h : s.Sound seen) : s.frontier ≤ s.here.position := by
  cases hm : s.mode.collected? with
  | none =>
      have hbetween : s.mode = .between := by
        cases hmode : s.mode <;> rw [hmode] at hm <;> cases hm
      exact Nat.le_of_eq (frontier_of_between hbetween)
  | some collected =>
      rw [frontier_of_collected hm]
      exact Nat.le_of_lt (h.lt_here hm)

theorem flush (h : s.Sound seen) (hopen : s.mode.opening? = none) :
    s.flush.Ordered ∧ s.flush.frontier = s.here.position := by
  have hfrontier : s.flush.frontier = s.here.position := by
    rw [frontier_of_between (flush_mode hopen), flush_here]
  refine ⟨?_, hfrontier⟩
  cases hm : s.mode with
  | between =>
      rw [flush_of_between hm]
      exact h.ordered
  | run start taken =>
      have hcollected : s.mode.collected? = some (start, taken) := by rw [hm]; rfl
      have hnew : s.flush.found =
          ⟨String.ofList taken.reverse, start.spanTo s.here.position⟩ :: s.found := by
        simp [Splitting.flush, hm]
      exact h.ordered.push hnew (Nat.le_of_eq (frontier_of_collected hcollected))
        (h.lt_here hcollected) (Nat.le_of_eq hfrontier.symm)
  | quote start taken => simp [hm] at hopen

theorem collects_of_reads (h : s.Sound seen) {c : Char} {s' : Splitting} (hreads : s.Reads c s')
    (hbreak : c = '\n' → s.mode.opening? = none) : s'.mode.Collects := by
  have hcollects := h.collects
  cases hreads with
  | separator hopen _ =>
      show s.flush.mode.Collects
      rw [flush_mode hopen]
      trivial
  | symbol hopen _ =>
      show s.flush.mode.Collects
      rw [flush_mode hopen]
      trivial
  | opening _ hc => exact ⟨[], by rw [hc]; rfl, List.not_mem_nil, List.not_mem_nil⟩
  | beginning _ hord => exact ⟨List.cons_ne_nil c [], by simpa using hord⟩
  | running start taken hm hord =>
      rw [hm] at hcollects
      exact ⟨List.cons_ne_nil c taken, List.forall_mem_cons.mpr ⟨hord, hcollects.2⟩⟩
  | closing => trivial
  | quoting start taken hm hc =>
      rw [hm] at hcollects hbreak
      obtain ⟨inside, hreverse, hquote, hline⟩ := hcollects
      have hc' : c ≠ '\n' := fun heq => absurd (hbreak heq) (Option.some_ne_none start)
      refine ⟨inside ++ [c], by simp [hreverse], ?_, ?_⟩
      · simpa [hquote] using Ne.symm hc
      · simpa [hline] using Ne.symm hc'

theorem ordered_of_reads (h : s.Sound seen) {c : Char} {s' : Splitting} (hreads : s.Reads c s') :
    s'.Ordered := by
  have hsize := c.utf8Size_pos
  have hafter := Mark.after_position s.here c
  cases hreads with
  | separator hopen _ =>
      obtain ⟨hordered, hfrontier⟩ := h.flush hopen
      refine hordered.of_le rfl ?_
      rw [frontier_of_between (s := s.flush.advance c) (flush_mode hopen), advance_here, flush_here]
      omega
  | symbol hopen _ =>
      obtain ⟨hordered, hfrontier⟩ := h.flush hopen
      have hstop : ((s.flush.emit c).advance c).frontier = s.here.position + c.utf8Size := by
        rw [frontier_of_between (s := (s.flush.emit c).advance c) (flush_mode hopen), ← hafter]
        exact congrArg (fun m => (Mark.after m c).position) s.flush_here
      refine hordered.push (l := ⟨String.singleton c, s.flush.here.spanOf c⟩) rfl ?_ ?_ ?_
      · rw [hfrontier, flush_here]
        exact Nat.le_refl _
      · show s.flush.here.position < s.flush.here.position + c.utf8Size
        omega
      · rw [hstop, flush_here]
        exact Nat.le_refl _
  | opening hopen _ =>
      obtain ⟨hordered, hfrontier⟩ := h.flush hopen
      exact hordered.of_le rfl (Nat.le_of_eq hfrontier)
  | beginning => exact h.ordered.of_le rfl h.frontier_le
  | running start taken hm _ =>
      have hfrontier : s.frontier = start.position := frontier_of_collected (by rw [hm]; rfl)
      exact h.ordered.of_le rfl (Nat.le_of_eq hfrontier)
  | closing start taken hm _ =>
      have hcollected : s.mode.collected? = some (start, taken) := by rw [hm]; rfl
      have hlt := h.lt_here hcollected
      refine h.ordered.push rfl (Nat.le_of_eq (frontier_of_collected hcollected)) ?_ ?_
      · show start.position < s.here.position + c.utf8Size
        omega
      · exact Nat.le_of_eq hafter.symm
  | quoting start taken hm _ =>
      have hfrontier : s.frontier = start.position := frontier_of_collected (by rw [hm]; rfl)
      exact h.ordered.of_le rfl (Nat.le_of_eq hfrontier)

theorem read (h : s.Sound seen) {c : Char} (hbreak : c = '\n' → s.mode.opening? = none) :
    (s.read c).Sound (seen ++ [c]) :=
  ⟨h.located.read c, h.collects_of_reads (s.reads_read c) hbreak,
    h.ordered_of_reads (s.reads_read c)⟩

end Sound

/-! ## Runs -/

/-- The states in which the pass over `cs` stands before a character or at the end, with what is not
read. -/
inductive Reached (cs : List Char) : List Char → Splitting → Prop where
  | initial : Reached cs cs initial
  | step {c : Char} {rest : List Char} {s s' : Splitting} : Reached cs (c :: rest) s →
      s.step c rest = .ok s' → Reached cs rest s'

/-- The terminator was read last, and nothing is being collected. -/
def EndsStatement (s : Splitting) : Prop :=
  s.mode = .between ∧ ∃ l, s.found.head? = some l ∧ l.text = String.singleton terminator ∧
    l.span.start + 1 = s.here.position ∧ l.span.stop = s.here.position

theorem endsStatement_read {s : Splitting} (h : s.mode.opening? = none) :
    (s.read terminator).EndsStatement := by
  have hhere : (s.read terminator).here.position = s.here.position + 1 := by
    rw [read_here, Mark.after_position]
    rfl
  refine ⟨read_terminator_mode h, ⟨String.singleton terminator, s.here.spanOf terminator⟩, ?_, rfl,
    hhere.symm, hhere.symm⟩
  rw [read_of_opening_none h, stepPlain_symbol s isSymbol_terminator]
  show some (⟨_, s.flush.here.spanOf terminator⟩ : Lexeme) = _
  rw [flush_here]

/-- The invariant holds wherever the pass comes, and where a line ends a statement does. -/
theorem Reached.sound {cs rest : List Char} {s : Splitting} (h : Reached cs rest s) :
    ∃ seen, cs = seen ++ rest ∧ s.Sound seen ∧
      (seen ≠ [] → endsLine rest = true → s.EndsStatement) := by
  induction h with
  | initial => exact ⟨[], rfl, sound_initial, fun hne => absurd rfl hne⟩
  | @step c rest s s' _ hstep ih =>
      obtain ⟨seen, rfl, hsound, -⟩ := ih
      obtain ⟨rfl, hbreak, hend⟩ := step_spec hstep
      refine ⟨seen ++ [c], by simp, hsound.read fun hc => (hbreak hc).2, fun _ hrest => ?_⟩
      obtain ⟨rfl, hopen⟩ := hend hrest
      exact endsStatement_read hopen

end Splitting

/-! ## The pass on offsets -/

theorem Mode.exists_run_of_pending {mode : Mode} {start : Mark} (h : mode.pending? = some start) :
    ∃ taken, mode = .run start taken := by
  cases mode with
  | run begun taken =>
      obtain rfl : begun = start := Option.some.inj h
      exact ⟨taken, rfl⟩
  | _ => cases h

theorem Mode.exists_quote_of_opening {mode : Mode} {start : Mark}
    (h : mode.opening? = some start) : ∃ taken, mode = .quote start taken := by
  cases mode with
  | quote begun taken =>
      obtain rfl : begun = start := Option.some.inj h
      exact ⟨taken, rfl⟩
  | _ => cases h

namespace Passage

inductive Reached (source : List Char) : Passage → Prop where
  | initial : Reached source initial
  | round {p p' : Passage} : Reached source p → p.atEnd source = false →
      p.round source = .ok p' → Reached source p'

/-- A state fits the text before it. Not both a run and a string are going on. The text since the
beginning of a run has ordinary characters only, that of a string opens with the only quote in it and
stays on its line. The lexemes stand in order before the position and before what is going on. -/
structure Consistent (source : List Char) (p : Passage) : Prop where
  exclusive : p.pending = none ∨ p.opened = none
  pending : ∀ start, p.pending = some start → start.position < p.here.position ∧
    ∃ run, Text.cut source start.position p.here.position = .ok run ∧
      ∀ c ∈ run, Text.isSeparator c = false ∧ isSymbol c = false ∧ c ≠ '"'
  opened : ∀ start, p.opened = some start → start.position < p.here.position ∧
    ∃ inside, Text.cut source start.position p.here.position = .ok ('"' :: inside) ∧
      '"' ∉ inside ∧ '\n' ∉ inside
  rising : p.found.reverse.Pairwise fun l l' => l.span.stop ≤ l'.span.start
  solid : ∀ l ∈ p.found, l.span.start < l.span.stop
  below : ∀ l ∈ p.found, l.span.stop ≤ p.here.position
  behind : ∀ start, p.pending = some start ∨ p.opened = some start →
    ∀ l ∈ p.found, l.span.stop ≤ start.position

end Passage

namespace Splitting

theorem Sound.consistent {seen : List Char} {s : Splitting} (h : s.Sound seen) (rest : List Char) :
    s.outline.Consistent (seen ++ rest) where
  exclusive := by
    cases hm : s.mode with
    | quote start taken => exact .inl (congrArg Mode.pending? hm)
    | _ => exact .inr (congrArg Mode.opening? hm)
  pending := by
    intro start hstart
    obtain ⟨taken, hm⟩ := Mode.exists_run_of_pending hstart
    have hcollected : s.mode.collected? = some (start, taken) := by rw [hm]; rfl
    have hcollects := h.collects
    rw [hm] at hcollects
    refine ⟨h.lt_here hcollected, taken.reverse, (h.located.cut_collected hcollected rest).1, ?_⟩
    intro c hc
    obtain ⟨hquote, hsep, hsym⟩ := isOrdinary_iff.mp (hcollects.2 c (List.mem_reverse.mp hc))
    exact ⟨hsep, hsym, hquote⟩
  opened := by
    intro start hstart
    obtain ⟨taken, hm⟩ := Mode.exists_quote_of_opening hstart
    have hcollected : s.mode.collected? = some (start, taken) := by rw [hm]; rfl
    have hcollects := h.collects
    rw [hm] at hcollects
    obtain ⟨inside, hreverse, hquote, hline⟩ := hcollects
    have hcut := (h.located.cut_collected hcollected rest).1
    rw [hreverse] at hcut
    exact ⟨h.lt_here hcollected, inside, hcut, hquote, hline⟩
  rising := List.pairwise_reverse.mpr h.ordered.rising
  solid := h.ordered.solid
  below := fun l hl => Nat.le_trans (h.ordered.below l hl) h.frontier_le
  behind := by
    intro start hstart l hl
    have hfrontier : s.frontier = start.position := by
      rcases hstart with hpending | hopened
      · obtain ⟨taken, hm⟩ := Mode.exists_run_of_pending hpending
        have hcollected : s.mode.collected? = some (start, taken) := by
          rw [hm]
          rfl
        exact frontier_of_collected hcollected
      · obtain ⟨taken, hm⟩ := Mode.exists_quote_of_opening hopened
        have hcollected : s.mode.collected? = some (start, taken) := by
          rw [hm]
          rfl
        exact frontier_of_collected hcollected
    rw [← hfrontier]
    exact h.ordered.below l hl

/-- A round of the pass on offsets succeeds exactly as the step does that it stands for. -/
theorem Standing.round_eq_ok_iff {seen : List Char} {s : Splitting} (h : s.Standing seen) {c : Char}
    {rest : List Char} {p : Passage} :
    s.outline.round (seen ++ c :: rest) = .ok p ↔ ∃ s', s.step c rest = .ok s' ∧ s'.outline = p := by
  rw [h.outline_round]
  cases s.step c rest with
  | error e =>
      constructor
      · intro hround
        cases hround
      · rintro ⟨s', hstep, -⟩
        cases hstep
  | ok next =>
      constructor
      · intro hround
        exact ⟨next, rfl, Except.ok.inj hround⟩
      · rintro ⟨s', hstep, rfl⟩
        cases hstep
        rfl

end Splitting

/-- The states of the pass on offsets are those of the pass on characters, seen without what these
have collected. -/
theorem Passage.reached_iff {cs : List Char} {p : Passage} :
    p.Reached cs ↔ ∃ rest s, Splitting.Reached cs rest s ∧ s.outline = p := by
  constructor
  · intro h
    induction h with
    | initial => exact ⟨cs, Splitting.initial, .initial, rfl⟩
    | @round p p' _ hend hround ih =>
        obtain ⟨rest, s, hs, rfl⟩ := ih
        obtain ⟨seen, hcs, hsound, -⟩ := hs.sound
        rw [hcs, Passage.atEnd_eq hsound.standing.outline_here] at hend
        obtain ⟨c, rest, rfl⟩ := List.exists_cons_of_ne_nil (List.isEmpty_eq_false_iff.mp hend)
        rw [hcs] at hround
        obtain ⟨s', hstep, rfl⟩ := hsound.standing.round_eq_ok_iff.mp hround
        exact ⟨rest, s', hs.step hstep, rfl⟩
  · rintro ⟨rest, s, hs, rfl⟩
    induction hs with
    | initial => exact .initial
    | @step c rest s s' hs hstep ih =>
        obtain ⟨seen, hcs, hsound, -⟩ := hs.sound
        refine ih.round ?_ ?_
        · rw [hcs, Passage.atEnd_eq hsound.standing.outline_here]
          rfl
        · rw [hcs]
          exact hsound.standing.round_eq_ok_iff.mpr ⟨s', hstep, rfl⟩

theorem Splitting.Standing.rest_of_current {seen rest : List Char} {s : Splitting}
    (h : s.Standing seen) {c : Char} (hc : c ≠ '\x00') (hcurrent : s.outline.current (seen ++ rest) = .ok c) :
    ∃ more, rest = c :: more := by
  cases rest with
  | nil =>
      rw [Passage.current, Passage.remaining_eq h.outline_here] at hcurrent
      exact absurd (Except.ok.inj hcurrent).symm hc
  | cons d more =>
      rw [Passage.current_eq h.outline_here] at hcurrent
      exact ⟨more, by rw [Except.ok.inj hcurrent]⟩

theorem Splitting.Sound.between_of_nil {s : Splitting} (h : s.Sound []) : s.mode = .between := by
  have hzero : s.here.position = 0 := by
    rw [h.located.here]
    rfl
  cases hm : s.mode with
  | between => rfl
  | _ =>
      have hlt := h.lt_here (by rw [hm]; rfl)
      omega

namespace Passage.Reached

variable {cs : List Char} {p : Passage}

/-- A reached state stands somewhere in the text, and where a line ends there nothing is going on. -/
theorem exists_sound (h : p.Reached cs) :
    ∃ seen rest s, cs = seen ++ rest ∧ s.outline = p ∧ Splitting.Sound seen s ∧
      (Splitting.endsLine rest = true → s.mode = .between ∧ (seen ≠ [] → s.EndsStatement)) := by
  obtain ⟨rest, s, hs, houtline⟩ := Passage.reached_iff.mp h
  obtain ⟨seen, hcs, hsound, hends⟩ := hs.sound
  refine ⟨seen, rest, s, hcs, houtline, hsound, fun hrest => ⟨?_, fun hne => hends hne hrest⟩⟩
  by_cases hseen : seen = []
  · subst hseen
    exact hsound.between_of_nil
  · exact (hends hseen hrest).1

theorem consistent (h : p.Reached cs) : p.Consistent cs := by
  obtain ⟨seen, rest, s, rfl, rfl, hsound, -⟩ := h.exists_sound
  exact hsound.consistent rest

/-- Before a line break nothing is going on, and behind something the terminator was read last. -/
theorem of_break (h : p.Reached cs) (hbreak : p.current cs = .ok '\n') :
    p.opened = none ∧ p.pending = none ∧ (0 < p.here.position →
      ∃ l, p.found.head? = some l ∧ l.text = ";" ∧ l.span.start + 1 = p.here.position ∧
        l.span.stop = p.here.position) := by
  obtain ⟨seen, rest, s, rfl, rfl, hsound, hends⟩ := h.exists_sound
  obtain ⟨more, rfl⟩ := hsound.standing.rest_of_current (by decide) hbreak
  obtain ⟨hbetween, hstatement⟩ := hends rfl
  refine ⟨congrArg Mode.opening? hbetween, congrArg Mode.pending? hbetween, fun hpos => ?_⟩
  have hseen : seen ≠ [] := by
    rintro rfl
    rw [hsound.standing.outline_here] at hpos
    exact absurd hpos (by decide)
  exact (hstatement hseen).2

/-- At the end of the text nothing is left to end. -/
theorem of_atEnd (h : p.Reached cs) (hend : p.atEnd cs = true) :
    p.opened = none ∧ p.flush cs = .ok p ∧ p.finish cs = .ok p.found.reverse := by
  obtain ⟨seen, rest, s, rfl, rfl, hsound, hends⟩ := h.exists_sound
  rw [Passage.atEnd_eq hsound.standing.outline_here, List.isEmpty_iff] at hend
  subst hend
  obtain ⟨hbetween, -⟩ := hends rfl
  have hopened : s.outline.opened = none := congrArg Mode.opening? hbetween
  have hpending : s.outline.pending = none := congrArg Mode.pending? hbetween
  have hflush : s.outline.flush (seen ++ []) = .ok s.outline := by
    rw [Passage.flush, hpending]
  refine ⟨hopened, hflush, ?_⟩
  rw [Passage.finish, hopened]
  show (s.outline.flush (seen ++ []) >>= _) = _
  rw [hflush]
  rfl

theorem flush_pending (h : p.Reached cs) {start : Mark} (hstart : p.pending = some start) :
    ∃ l, p.flush cs = .ok { p with pending := none, found := l :: p.found } := by
  obtain ⟨hlt, run, hcut, -⟩ := h.consistent.pending start hstart
  refine ⟨⟨String.ofList run, start.spanTo p.here.position⟩, ?_⟩
  rw [Passage.flush, hstart]
  show Passage.push cs { p with pending := none } start p.here.position = _
  rw [Passage.push, if_pos hlt, hcut]
  rfl

theorem push_opened (h : p.Reached cs) {start : Mark} (hstart : p.opened = some start)
    (hquote : p.current cs = .ok '"') :
    ∃ l, p.push cs start (p.here.position + '"'.utf8Size) = .ok { p with found := l :: p.found } := by
  obtain ⟨seen, rest, s, rfl, rfl, hsound, -⟩ := h.exists_sound
  obtain ⟨more, rfl⟩ := hsound.standing.rest_of_current (by decide) hquote
  obtain ⟨taken, hm⟩ := Mode.exists_quote_of_opening hstart
  have hcollected : s.mode.collected? = some (start, taken) := by rw [hm]; rfl
  exact ⟨_, hsound.standing.push_collected hcollected s.outline ['"'] more rfl⟩

end Passage.Reached

/-- The states of the pass on offsets are those of the pass, and all of them are consistent. Before a
line break no string is open and nothing is being collected, and behind something the terminator of
the line was the last lexeme. At the end of the text no string is open and no run is left to be
ended. Where a run or a string ends, it is never so empty that no lexeme comes of it. -/
theorem reached_consistent (source : String) :
    (∀ p, Passage.Reached source.toList p ↔
      ∃ rest s, Splitting.Reached source.toList rest s ∧ s.outline = p) ∧
    ∀ p, Passage.Reached source.toList p →
      p.Consistent source.toList ∧
      (p.current source.toList = .ok '\n' → 0 < p.here.position →
        p.opened = none ∧ p.pending = none ∧ ∃ l, p.found.head? = some l ∧ l.text = ";" ∧
          l.span.start + 1 = p.here.position ∧ l.span.stop = p.here.position) ∧
      (∀ start, p.opened = some start → p.current source.toList ≠ .ok '\n') ∧
      (p.atEnd source.toList = true → p.opened = none ∧ p.flush source.toList = .ok p ∧
        p.finish source.toList = .ok p.found.reverse) ∧
      (∀ start, p.pending = some start → ∃ l, p.flush source.toList =
        .ok { p with pending := none, found := l :: p.found }) ∧
      (∀ start, p.opened = some start → p.current source.toList = .ok '"' →
        ∃ l, p.push source.toList start (p.here.position + '"'.utf8Size) =
          .ok { p with found := l :: p.found }) := by
  refine ⟨fun p => Passage.reached_iff, fun p h => ?_⟩
  refine ⟨h.consistent, ?_, ?_, h.of_atEnd, fun _ => h.flush_pending, fun _ => h.push_opened⟩
  · intro hbreak hpos
    obtain ⟨hopened, hpending, hlast⟩ := h.of_break hbreak
    exact ⟨hopened, hpending, hlast hpos⟩
  · intro start hstart hbreak
    rw [(h.of_break hbreak).1] at hstart
    cases hstart

theorem reached_consistent_quote_on_second_line :
    let cs := "é;\na\"b\";".toList
    let p : Passage := ⟨⟨3, 1, 3⟩, none, none, [⟨";", ⟨2, 3, 1, 2⟩⟩, ⟨"é", ⟨0, 2, 1, 1⟩⟩]⟩
    let q : Passage := ⟨⟨6, 2, 3⟩, some ⟨5, 2, 2⟩, none,
      [⟨"a", ⟨4, 5, 2, 1⟩⟩, ⟨";", ⟨2, 3, 1, 2⟩⟩, ⟨"é", ⟨0, 2, 1, 1⟩⟩]⟩
    p.Reached cs ∧ p.current cs = .ok '\n' ∧
    (∃ l, p.found.head? = some l ∧ l.text = ";" ∧ l.span.stop = p.here.position) ∧
    q.Reached cs ∧ q.Consistent cs ∧ q.current cs ≠ .ok '\n' := by
  intro cs p q
  have hp : p.Reached cs :=
    (Passage.Reached.initial.round (by decide +kernel) rfl).round (by decide +kernel) rfl
  have hq : q.Reached cs :=
    ((hp.round (by decide +kernel) rfl).round (by decide +kernel) rfl).round (by decide +kernel) rfl
  have hbreak : p.current cs = .ok '\n' := rfl
  obtain ⟨-, hreached⟩ := reached_consistent "é;\na\"b\";"
  obtain ⟨-, hline, -⟩ := hreached p hp
  obtain ⟨hconsistent, -, hopened, -⟩ := hreached q hq
  obtain ⟨-, -, l, hlast, htext, -, hstop⟩ := hline hbreak (by decide)
  exact ⟨hp, hbreak, ⟨l, hlast, htext, hstop⟩, hq, hconsistent, hopened _ rfl⟩

end StatementLexer
