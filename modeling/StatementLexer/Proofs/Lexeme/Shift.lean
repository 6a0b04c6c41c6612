import StatementLexer.Proofs.Lexeme.Scan

/-! # Splitting behind other lines

Behind lines that were accepted the pass is back at its beginning, but for its position and for what
it has found. A pass from a shifted state does the same at shifted positions, so a text split behind
a line break gives the lexemes and the fault it has by itself, shifted. Only a line break at the
very beginning of a text is seen differently there. Main statement: `split_append_break`.
-/

namespace StatementLexer

/-! ## Moving positions -/

def Mark.shift (bytes lines : Nat) (m : Mark) : Mark :=
  ⟨m.position + bytes, m.line + lines, m.column⟩

/-- The same place behind `bytes` more bytes, which are `lines` whole lines. -/
def Span.shift (bytes lines : Nat) (s : Span) : Span :=
  ⟨s.start + bytes, s.stop + bytes, s.line + lines, s.column⟩

def Lexeme.shift (bytes lines : Nat) (l : Lexeme) : Lexeme :=
  ⟨l.text, l.span.shift bytes lines⟩

def LexError.shift (bytes lines : Nat) : LexError → LexError
  | missingTerminator s => .missingTerminator (s.shift bytes lines)
  | unterminatedQuote s => .unterminatedQuote (s.shift bytes lines)
  | invalidToken lexeme s => .invalidToken lexeme (s.shift bytes lines)

def Mode.shift (bytes lines : Nat) : Mode → Mode
  | between => .between
  | run start taken => .run (start.shift bytes lines) taken
  | quote start taken => .quote (start.shift bytes lines) taken

/-- The state at shifted positions, with `prior` found before. -/
def Splitting.shift (bytes lines : Nat) (prior : List Lexeme) (s : Splitting) : Splitting :=
  ⟨s.here.shift bytes lines, s.mode.shift bytes lines,
    s.found.map (Lexeme.shift bytes lines) ++ prior⟩

section

variable (bytes lines : Nat)

@[simp] theorem Mark.shift_position (m : Mark) :
    (m.shift bytes lines).position = m.position + bytes := rfl

theorem Mark.shift_after (m : Mark) (c : Char) :
    (m.shift bytes lines).after c = (m.after c).shift bytes lines := by
  by_cases hc : c = '\n'
  · simp [after, hc, shift, Nat.add_right_comm]
  · simp [after, hc, shift, Nat.add_right_comm]

theorem Mark.shift_spanTo (m : Mark) (stop : Nat) :
    (m.shift bytes lines).spanTo (stop + bytes) = (m.spanTo stop).shift bytes lines := rfl

theorem Mark.shift_spanOf (m : Mark) (c : Char) :
    (m.shift bytes lines).spanOf c = (m.spanOf c).shift bytes lines := by
  simp [spanOf, spanTo, shift, Span.shift, Nat.add_right_comm]

end

namespace Splitting

variable (bytes lines : Nat) (prior : List Lexeme)

@[simp] theorem shift_here (s : Splitting) :
    (s.shift bytes lines prior).here = s.here.shift bytes lines := rfl

@[simp] theorem shift_mode (s : Splitting) :
    (s.shift bytes lines prior).mode = s.mode.shift bytes lines := rfl

theorem shift_advance (s : Splitting) (c : Char) :
    (s.shift bytes lines prior).advance c = (s.advance c).shift bytes lines prior := by
  simp [advance, shift, Mark.shift_after]

theorem shift_emit (s : Splitting) (c : Char) :
    (s.shift bytes lines prior).emit c = (s.emit c).shift bytes lines prior := by
  simp [emit, shift, Mark.shift_spanOf, Lexeme.shift]

theorem shift_flush (s : Splitting) :
    (s.shift bytes lines prior).flush = s.flush.shift bytes lines prior := by
  cases hm : s.mode with
  | between => simp [flush, shift, hm, Mode.shift]
  | run start taken => simp [flush, shift, hm, Mode.shift, Lexeme.shift]; rfl
  | quote start taken => simp [flush, shift, hm, Mode.shift]

theorem shift_stepPlain {s : Splitting} (hopen : s.mode.opening? = none) (c : Char) :
    (s.shift bytes lines prior).stepPlain c = (s.stepPlain c).shift bytes lines prior := by
  rcases char_cases c with rfl | hsep | hsym | hord
  · rw [stepPlain_quote, stepPlain_quote, shift_flush]
    exact shift_advance bytes lines prior { s.flush with mode := .quote s.here ['"'] } '"'
  · rw [stepPlain_separator _ hsep, stepPlain_separator _ hsep, shift_flush, shift_advance]
  · rw [stepPlain_symbol _ hsym, stepPlain_symbol _ hsym, shift_flush, shift_emit, shift_advance]
  · cases hm : s.mode with
    | between =>
        have hm' : (s.shift bytes lines prior).mode = .between := by rw [shift_mode, hm]; rfl
        rw [stepPlain_ordinary_between hm hord, stepPlain_ordinary_between hm' hord]
        exact shift_advance bytes lines prior { s with mode := .run s.here [c] } c
    | run start taken =>
        have hm' : (s.shift bytes lines prior).mode = .run (start.shift bytes lines) taken := by
          rw [shift_mode, hm]; rfl
        rw [stepPlain_ordinary_run hm hord, stepPlain_ordinary_run hm' hord]
        exact shift_advance bytes lines prior { s with mode := .run start (c :: taken) } c
    | quote start taken => simp [hm] at hopen

theorem shift_spanBehind (s : Splitting) (start : Mark) (c : Char) :
    (start.shift bytes lines).spanTo ((s.shift bytes lines prior).here.position + c.utf8Size) =
      (start.spanTo (s.here.position + c.utf8Size)).shift bytes lines := by
  rw [shift_here, Mark.shift_position, Nat.add_right_comm, Mark.shift_spanTo]

theorem shift_unterminated (s : Splitting) (start : Mark) (c : Char) :
    (s.shift bytes lines prior).unterminated (start.shift bytes lines) c =
      (s.unterminated start c).shift bytes lines :=
  congrArg LexError.unterminatedQuote (shift_spanBehind bytes lines prior s start c)

theorem shift_missingTerminator {s : Splitting} {c : Char} (h : c = '\n' → 0 < s.here.position) :
    (s.shift bytes lines prior).missingTerminator c =
      (s.missingTerminator c).shift bytes lines := by
  by_cases hc : c = '\n'
  · have hpos : 0 < s.here.position + bytes := Nat.add_pos_left (h hc) bytes
    simp [missingTerminator, hc, h hc, hpos, Mark.shift, LexError.shift, Span.shift,
      Nat.add_right_comm]
  · simp [missingTerminator, hc, LexError.shift, Mark.shift_spanOf]

theorem shift_stepQuote (s : Splitting) (start : Mark) (taken : List Char) (c : Char) :
    (s.shift bytes lines prior).stepQuote (start.shift bytes lines) taken c =
      ((s.stepQuote start taken c).mapError (LexError.shift bytes lines)).map
        (shift bytes lines prior) := by
  unfold stepQuote
  by_cases hquote : c = '"'
  · rw [if_pos hquote, if_pos hquote]
    dsimp only
    rw [shift_spanBehind]
    exact congrArg Except.ok (shift_advance bytes lines prior { s with
      mode := .between
      found := ⟨_, start.spanTo (s.here.position + c.utf8Size)⟩ :: s.found } c)
  · rw [if_neg hquote, if_neg hquote]
    by_cases hbreak : c = '\n'
    · rw [if_pos hbreak, if_pos hbreak, shift_unterminated]
      rfl
    · rw [if_neg hbreak, if_neg hbreak]
      exact congrArg Except.ok
        (shift_advance bytes lines prior { s with mode := .quote start (c :: taken) } c)

theorem shift_endStatement (s : Splitting) (c : Char) :
    (s.shift bytes lines prior).endStatement c =
      ((s.endStatement c).mapError (LexError.shift bytes lines)).map (shift bytes lines prior) := by
  unfold endStatement
  rw [shift_mode, shift_flush, shift_emit, shift_advance]
  cases s.mode with
  | between => rfl
  | run start taken => rfl
  | quote start taken =>
      exact congrArg Except.error (shift_unterminated bytes lines prior s start c)

/-- A step at shifted positions is the step, shifted. A line break at the very beginning of a text
is left out: it ends an empty first line there, and nowhere else. -/
theorem shift_step {s : Splitting} {c : Char} (h : c = '\n' → 0 < s.here.position)
    (rest : List Char) :
    (s.shift bytes lines prior).step c rest =
      ((s.step c rest).mapError (LexError.shift bytes lines)).map (shift bytes lines prior) := by
  have hfirst : ¬ (c = '\n' ∧ s.here.position = 0) := by
    rintro ⟨hc, hzero⟩
    have := h hc
    omega
  have hfirst' : ¬ (c = '\n' ∧ (s.shift bytes lines prior).here.position = 0) := by
    rintro ⟨hc, hzero⟩
    have := h hc
    have : s.here.position + bytes = 0 := hzero
    omega
  unfold step
  rw [if_neg hfirst, if_neg hfirst', shift_mode]
  cases endsLine rest with
  | true =>
      by_cases ht : c = terminator
      · simp only [if_pos ht, if_true]
        exact shift_endStatement bytes lines prior s c
      · simp only [if_neg ht, if_true]
        exact congrArg Except.error (shift_missingTerminator bytes lines prior h)
  | false =>
      simp only [Bool.false_eq_true, if_false]
      cases hm : s.mode with
      | between =>
          exact congrArg Except.ok
            (shift_stepPlain bytes lines prior (congrArg Mode.opening? hm) c)
      | run start taken =>
          exact congrArg Except.ok
            (shift_stepPlain bytes lines prior (congrArg Mode.opening? hm) c)
      | quote start taken => exact shift_stepQuote bytes lines prior s start taken c

theorem shift_scan {s : Splitting} {cs : List Char}
    (h : cs.head? = some '\n' → 0 < s.here.position) :
    (s.shift bytes lines prior).scan cs =
      ((s.scan cs).mapError (LexError.shift bytes lines)).map (shift bytes lines prior) := by
  induction cs generalizing s with
  | nil => rfl
  | cons c cs ih =>
      have hstep := shift_step bytes lines prior (fun hc => h (congrArg some hc)) cs
      cases hs : s.step c cs with
      | error e =>
          rw [hs] at hstep
          rw [scan_cons_of_error hstep, scan_cons_of_error hs]
          rfl
      | ok t =>
          rw [hs] at hstep
          rw [scan_cons_of_ok hstep, scan_cons_of_ok hs]
          apply ih
          intro _
          obtain ⟨rfl, -, -⟩ := step_spec hs
          have := c.utf8Size_pos
          rw [read_here, Mark.after_position]
          omega

/-- Behind an accepted text that is not empty, a line break before a line that is not empty leads
to the initial state, shifted. -/
theorem step_break_shift {s : Splitting} {cs rest : List Char} (hne : cs ≠ [])
    (h : initial.scan cs = .ok s) (hrest : endsLine rest = false) :
    s.step '\n' rest = .ok
      (initial.shift (Text.byteLength cs + 1) (Text.lines cs).length s.found) := by
  have hhere := scan_here h
  have hmode := scan_mode rfl h
  have hpos : 0 < s.here.position := by
    rw [hhere, Mark.behind_position]
    exact Nat.add_pos_right _ (Text.byteLength_pos hne)
  have hline := Mark.behind_line Mark.origin cs
  have hnext : s.here.after '\n' =
      Mark.origin.shift (Text.byteLength cs + 1) (Text.lines cs).length := by
    rw [hhere, Mark.after_break, Mark.behind_position]
    simp [initial, Mark.shift, Mark.origin] at hline ⊢
    omega
  rw [step_break hrest hmode hpos]
  simp [advance, shift, hnext, hmode, initial, Mode.shift]

end Splitting

theorem splitChars_append_break_error {xs : List Char} {e : LexError}
    (h : splitChars xs = .error e) (ys : List Char) :
    splitChars (xs ++ '\n' :: ys) = .error e := by
  rw [splitChars_eq_map] at h ⊢
  rw [Splitting.scan_append_break]
  cases hscan : Splitting.initial.scan xs with
  | error e' =>
      rw [hscan] at h
      cases h
      rfl
  | ok s => simp [hscan, Except.map] at h

theorem splitChars_append_break_ok {xs ys : List Char} {ls : List Lexeme} (hxs : xs ≠ [])
    (h : splitChars xs = .ok ls) (hys : Splitting.endsLine ys = false) :
    splitChars (xs ++ '\n' :: ys) =
      ((splitChars ys).mapError
        (LexError.shift (Text.byteLength xs + 1) (Text.lines xs).length)).map
        fun ms => ls ++ ms.map (Lexeme.shift (Text.byteLength xs + 1) (Text.lines xs).length) := by
  rw [splitChars_eq_map] at h ⊢
  rw [Splitting.scan_append_break, splitChars_eq_map]
  cases hscan : Splitting.initial.scan xs with
  | error e => simp [hscan, Except.map] at h
  | ok s =>
      rw [hscan] at h
      obtain rfl : s.found.reverse = ls := by simpa [Except.map] using h
      have hhead : ys.head? = some '\n' → 0 < Splitting.initial.here.position := by
        intro hbreak
        cases ys with
        | nil => simp at hbreak
        | cons c ys => simp_all
      have hstep := Splitting.step_break_shift hxs hscan hys
      simp only [Except.bind]
      rw [Splitting.scan_cons_of_ok hstep, Splitting.shift_scan _ _ _ hhead]
      cases Splitting.initial.scan ys with
      | error e => rfl
      | ok t =>
          refine congrArg Except.ok ?_
          simp [Splitting.shift]

/-- A fault stays what it is whatever lines follow. Behind accepted lines a text that does not begin
with an empty line has its own lexemes or its own fault, shifted by those lines. -/
theorem split_append_break (s t : String) :
    (∀ e, split s = .error e → split (s ++ "\n" ++ t) = .error e) ∧
    ∀ ls, s ≠ "" → split s = .ok ls → t ≠ "" → t.toList.head? ≠ some '\n' →
      split (s ++ "\n" ++ t) =
        match split t with
        | .ok ms => .ok (ls ++ ms.map
            (Lexeme.shift (Text.byteLength s.toList + 1) (Text.lines s.toList).length))
        | .error e => .error
            (e.shift (Text.byteLength s.toList + 1) (Text.lines s.toList).length) := by
  have happend : (s ++ "\n" ++ t).toList = s.toList ++ '\n' :: t.toList := by simp
  unfold split
  rw [happend]
  refine ⟨fun e he => splitChars_append_break_error he t.toList, ?_⟩
  intro ls hs hok ht hhead
  have hs' : s.toList ≠ [] := fun h => hs (String.toList_eq_nil_iff.mp h)
  have ht' : Splitting.endsLine t.toList = false := by
    obtain ⟨c, cs, hcs⟩ := List.exists_cons_of_ne_nil fun h => ht (String.toList_eq_nil_iff.mp h)
    rw [hcs] at hhead ⊢
    simpa using hhead
  rw [splitChars_append_break_ok hs' hok ht']
  cases splitChars t.toList <;> rfl

theorem split_append_break_fault :
    split "a;\nb=é;" = .ok [⟨"a", ⟨0, 1, 1, 1⟩⟩, ⟨";", ⟨1, 2, 1, 2⟩⟩, ⟨"b", ⟨3, 4, 2, 1⟩⟩,
      ⟨"=", ⟨4, 5, 2, 2⟩⟩, ⟨"é", ⟨5, 7, 2, 3⟩⟩, ⟨";", ⟨7, 8, 2, 4⟩⟩] ∧
    split "a;\nb=é;\nc;\nd" = .error (.missingTerminator ⟨12, 13, 4, 1⟩) :=
  ⟨rfl, (split_append_break "a;\nb=é;" "c;\nd").2 _ (by decide) rfl (by decide) (by decide)⟩

end StatementLexer
