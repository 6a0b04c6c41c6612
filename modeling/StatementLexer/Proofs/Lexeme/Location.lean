import StatementLexer.Proofs.Lexeme.Scan

/-! # Where lexemes stand

The span of a lexeme is made from a mark that the pass has saved, sometimes many characters ago.
Each state of the pass knows where its marks stand in the text read so far, so line and column of a
span are those that a reader finds by counting from the beginning of the text.
-/

namespace StatementLexer

namespace Mark

/-- The mark at which a text stands behind another one, from the beginning. -/
def start (before : List Char) : Mark :=
  origin.behind before

theorem start_append (xs ys : List Char) : start (xs ++ ys) = (start xs).behind ys :=
  behind_append origin xs ys

theorem start_concat (xs : List Char) (c : Char) : start (xs ++ [c]) = (start xs).after c :=
  start_append xs [c]

@[simp] theorem start_position (before : List Char) :
    (start before).position = Text.byteLength before := by
  unfold start
  rw [behind_position]
  exact Nat.zero_add _

theorem start_line (before : List Char) : (start before).line = 1 + before.count '\n' := by
  have hcount : ∀ m : Mark, (m.behind before).line = m.line + before.count '\n' := by
    induction before with
    | nil => exact fun m => rfl
    | cons c cs ih =>
        intro m
        rw [behind_cons, ih, List.count_cons]
        by_cases hc : c = '\n'
        · simp [hc, after_break, Nat.add_assoc, Nat.add_comm 1]
        · simp [hc, after_of_ne_break]
  exact hcount origin

theorem start_column (before : List Char) :
    (start before).column = 1 + (Text.lastLine before).length := by
  obtain ⟨hline, hall | ⟨front, hall⟩⟩ := Text.eq_append_lastLine before
  · rw [congrArg start hall, start, behind_of_not_mem _ hline]
    rfl
  · rw [congrArg start hall, start_append, behind_cons, behind_of_not_mem _ hline, after_break]

end Mark

/-- The text of a lexeme stands in `cs`, and its span says where. -/
def Lexeme.StandsIn (cs : List Char) (l : Lexeme) : Prop :=
  ∃ before after, cs = before ++ (l.text.toList ++ after) ∧
    l.span = (Mark.start before).spanTo
      (Text.byteLength before + Text.byteLength l.text.toList)

theorem Lexeme.StandsIn.append {cs : List Char} {l : Lexeme} (h : l.StandsIn cs)
    (more : List Char) : l.StandsIn (cs ++ more) := by
  obtain ⟨before, after, rfl, hspan⟩ := h
  exact ⟨before, after ++ more, by simp, hspan⟩

/-- Start and characters, the last one first, of the lexeme being collected. -/
def Mode.collected? : Mode → Option (Mark × List Char)
  | .between => none
  | .run start taken => some (start, taken)
  | .quote start taken => some (start, taken)

namespace Splitting

/-- The marks of a state that has read `seen` stand where they should. -/
structure Located (seen : List Char) (s : Splitting) : Prop where
  here : s.here = Mark.start seen
  found : ∀ l ∈ s.found, l.StandsIn seen
  collected : ∀ start taken, s.mode.collected? = some (start, taken) →
    ∃ before, seen = before ++ taken.reverse ∧ start = Mark.start before

theorem located_initial : Located [] initial where
  here := rfl
  found := by simp [initial]
  collected := by simp [initial, Mode.collected?]

namespace Located

variable {seen : List Char} {s : Splitting}

theorem standsIn_of_collected (h : Located seen s) {start : Mark} {taken : List Char}
    (hm : s.mode.collected? = some (start, taken)) :
    Lexeme.StandsIn seen ⟨String.ofList taken.reverse, start.spanTo s.here.position⟩ := by
  obtain ⟨before, hseen, hstart⟩ := h.collected start taken hm
  refine ⟨before, [], by simpa using hseen, ?_⟩
  have hposition : s.here.position =
      Text.byteLength before + Text.byteLength taken.reverse := by
    rw [h.here, Mark.start_position, hseen, Text.byteLength_append]
  rw [hstart, hposition, String.toList_ofList]

theorem flush (h : Located seen s) : Located seen s.flush := by
  cases hm : s.mode with
  | between => rwa [flush_of_between hm]
  | quote start taken =>
      have hflush : s.flush = s := by simp [Splitting.flush, hm]
      rwa [hflush]
  | run start taken =>
      have hcollected : s.mode.collected? = some (start, taken) := by rw [hm]; rfl
      have hnew := h.standsIn_of_collected hcollected
      have hflush : s.flush = { s with
          mode := .between
          found := ⟨String.ofList taken.reverse, start.spanTo s.here.position⟩ :: s.found } := by
        simp [Splitting.flush, hm]
      rw [hflush]
      exact ⟨h.here, List.forall_mem_cons.mpr ⟨hnew, h.found⟩, by simp [Mode.collected?]⟩

/-- Reading a character that leaves nothing half collected. -/
theorem advance_between (h : Located seen s) (hm : s.mode = .between) (c : Char) :
    Located (seen ++ [c]) (s.advance c) where
  here := by rw [advance_here, h.here, Mark.start_concat]
  found := fun l hl => (h.found l hl).append [c]
  collected := by
    intro start taken hcollected
    have hmode : (s.advance c).mode = .between := hm
    simp [hmode, Mode.collected?] at hcollected

theorem advance_emit (h : Located seen s) (hm : s.mode = .between) (c : Char) :
    Located (seen ++ [c]) ((s.emit c).advance c) where
  here := (h.advance_between hm c).here
  collected := (h.advance_between hm c).collected
  found := by
    have hnew : Lexeme.StandsIn (seen ++ [c]) ⟨String.singleton c, s.here.spanOf c⟩ := by
      refine ⟨seen, [], by simp, ?_⟩
      rw [h.here, Mark.spanOf, Mark.start_position]
      simp
    exact List.forall_mem_cons.mpr ⟨hnew, fun l hl => (h.found l hl).append [c]⟩

/-- Reading a character that is collected from here on. -/
theorem advance_opened (h : Located seen s) (c : Char) {mode : Mode}
    (hmode : mode.collected? = some (s.here, [c])) :
    Located (seen ++ [c]) ({ s with mode := mode }.advance c) where
  here := by rw [advance_here, h.here, Mark.start_concat]
  found := fun l hl => (h.found l hl).append [c]
  collected := by
    intro start taken hcollected
    obtain ⟨rfl, rfl⟩ : s.here = start ∧ [c] = taken := by
      simpa using hmode.symm.trans hcollected
    exact ⟨seen, by simp, h.here⟩

/-- Reading a character that is collected with those before it. -/
theorem advance_collected (h : Located seen s) (c : Char) {start : Mark} {taken : List Char}
    (hm : s.mode.collected? = some (start, taken)) {mode : Mode}
    (hmode : mode.collected? = some (start, c :: taken)) :
    Located (seen ++ [c]) ({ s with mode := mode }.advance c) where
  here := by rw [advance_here, h.here, Mark.start_concat]
  found := fun l hl => (h.found l hl).append [c]
  collected := by
    intro start' taken' hcollected
    obtain ⟨rfl, rfl⟩ : start = start' ∧ c :: taken = taken' := by
      simpa using hmode.symm.trans hcollected
    obtain ⟨before, hseen, hstart⟩ := h.collected start taken hm
    exact ⟨before, by simp [hseen], hstart⟩

theorem stepPlain (h : Located seen s) (hopen : s.mode.opening? = none) (c : Char) :
    Located (seen ++ [c]) (s.stepPlain c) := by
  have hflush := h.flush
  have hbetween := flush_mode hopen
  rcases char_cases c with rfl | hsep | hsym | hord
  · rw [stepPlain_quote]
    exact hflush.advance_opened '"' (by rw [flush_here]; rfl)
  · rw [stepPlain_separator s hsep]
    exact hflush.advance_between hbetween c
  · rw [stepPlain_symbol s hsym]
    exact hflush.advance_emit hbetween c
  · cases hm : s.mode with
    | between =>
        rw [stepPlain_ordinary_between hm hord]
        exact h.advance_opened c rfl
    | run start taken =>
        rw [stepPlain_ordinary_run hm hord]
        exact h.advance_collected c (by rw [hm]; rfl) rfl
    | quote start taken => simp [hm] at hopen

theorem read (h : Located seen s) (c : Char) : Located (seen ++ [c]) (s.read c) := by
  cases hm : s.mode with
  | between =>
      have hopen : s.mode.opening? = none := congrArg Mode.opening? hm
      rw [read_of_opening_none hopen]
      exact h.stepPlain hopen c
  | run start taken =>
      have hopen : s.mode.opening? = none := congrArg Mode.opening? hm
      rw [read_of_opening_none hopen]
      exact h.stepPlain hopen c
  | quote start taken =>
      have hcollected : s.mode.collected? = some (start, taken) := by rw [hm]; rfl
      have hlonger : Located (seen ++ [c])
          ({ s with mode := .quote start (c :: taken) }.advance c) :=
        h.advance_collected c hcollected rfl
      by_cases hc : c = '"'
      · subst hc
        have hnew := hlonger.standsIn_of_collected rfl
        rw [advance_here, Mark.after_position] at hnew
        simp only [Splitting.read, hm, if_true]
        exact ⟨hlonger.here, List.forall_mem_cons.mpr ⟨hnew, hlonger.found⟩,
          by simp [advance, Mode.collected?]⟩
      · simp only [Splitting.read, hm, if_neg hc]
        exact hlonger

theorem scan (h : Located seen s) {cs : List Char} {s' : Splitting} (hscan : s.scan cs = .ok s') :
    Located (seen ++ cs) s' := by
  induction cs generalizing s seen with
  | nil =>
      obtain rfl : s = s' := by simpa [Splitting.scan] using hscan
      simpa using h
  | cons c cs ih =>
      have hrest := ih (h.read c) (scan_cons_spec hscan).2
      simpa using hrest

end Located

end Splitting

/-- Every lexeme of a text stands in it where its span says, counted from the beginning. -/
theorem standsIn_of_mem_splitChars {cs : List Char} {ls : List Lexeme} (h : splitChars cs = .ok ls)
    {l : Lexeme} (hl : l ∈ ls) : l.StandsIn cs := by
  rw [splitChars_eq_map] at h
  cases hscan : Splitting.initial.scan cs with
  | error e => simp [hscan, Except.map] at h
  | ok s =>
      obtain rfl : s.found.reverse = ls := by
        rw [hscan] at h
        simpa [Except.map] using h
      have hlocated := Splitting.located_initial.scan hscan
      exact hlocated.found l (by simpa using hl)

end StatementLexer
