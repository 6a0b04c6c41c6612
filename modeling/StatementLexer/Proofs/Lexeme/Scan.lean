import StatementLexer.Lexeme.Split
import StatementLexer.Proofs.Text.Lines

/-! # The calculus of the splitting pass

A step of the pass either ends it with a fault or moves the state by `read`, which does not look
ahead. What a step does is said once: `step_spec` inverts a step that is no fault, and the lemmas
before it tell the step at an inner character, at the last one of a line and at a line break. Runs
over a part of a line and over the text before a line break follow from them.
-/

namespace StatementLexer

/-- A character of names and numbers: no separator, no symbol and no double quote. -/
def isOrdinary (c : Char) : Bool :=
  c != '"' && !Text.isSeparator c && !isSymbol c

theorem isSymbol_terminator : isSymbol terminator = true := by decide

theorem isOrdinary_iff {c : Char} :
    isOrdinary c = true ↔ c ≠ '"' ∧ Text.isSeparator c = false ∧ isSymbol c = false := by
  simp [isOrdinary, and_assoc]

theorem not_separator_of_symbol {c : Char} (h : isSymbol c = true) :
    Text.isSeparator c = false := by
  have hall : symbols.all (fun d => !Text.isSeparator d) = true := by decide
  simpa using List.all_eq_true.mp hall c (by simpa [isSymbol] using h)

theorem ne_quote_of_symbol {c : Char} (h : isSymbol c = true) : c ≠ '"' := by
  intro hc
  subst hc
  exact absurd h (by decide)

theorem ne_quote_of_separator {c : Char} (h : Text.isSeparator c = true) : c ≠ '"' := by
  intro hc
  subst hc
  exact absurd h (by decide)

theorem not_ordinary_of_separator {c : Char} (h : Text.isSeparator c = true) :
    isOrdinary c = false := by
  simp [isOrdinary, h]

theorem not_ordinary_of_symbol {c : Char} (h : isSymbol c = true) : isOrdinary c = false := by
  simp [isOrdinary, h]

theorem char_cases (c : Char) :
    c = '"' ∨ Text.isSeparator c = true ∨ isSymbol c = true ∨ isOrdinary c = true := by
  by_cases hquote : c = '"'
  · exact .inl hquote
  · cases hsep : Text.isSeparator c with
    | true => exact .inr (.inl rfl)
    | false =>
        cases hsym : isSymbol c with
        | true => exact .inr (.inr (.inl rfl))
        | false => exact .inr (.inr (.inr (isOrdinary_iff.mpr ⟨hquote, hsep, hsym⟩)))

def Mode.opening? : Mode → Option Mark
  | .quote start _ => some start
  | _ => none

@[simp] theorem Mode.opening?_between : between.opening? = none := rfl

@[simp] theorem Mode.opening?_run (start : Mark) (taken : List Char) :
    (run start taken).opening? = none := rfl

@[simp] theorem Mode.opening?_quote (start : Mark) (taken : List Char) :
    (quote start taken).opening? = some start := rfl

namespace Splitting

/-- The state behind a character that is no fault. -/
def read (s : Splitting) (c : Char) : Splitting :=
  match s.mode with
  | .quote start taken =>
      if c = '"' then
        let lexeme : Lexeme :=
          ⟨String.ofList (c :: taken).reverse, start.spanTo (s.here.position + c.utf8Size)⟩
        { s with mode := .between, found := lexeme :: s.found }.advance c
      else { s with mode := .quote start (c :: taken) }.advance c
  | _ => s.stepPlain c

theorem endsLine_iff {rest : List Char} :
    endsLine rest = true ↔ ∀ c, rest.head? = some c → c = '\n' := by
  cases rest <;> simp [endsLine]

@[simp] theorem endsLine_nil : endsLine [] = true := rfl

@[simp] theorem endsLine_cons (c : Char) (cs : List Char) : endsLine (c :: cs) = (c == '\n') := rfl

theorem endsLine_append {l : List Char} (hne : l ≠ []) (hline : '\n' ∉ l) (rest : List Char) :
    endsLine (l ++ rest) = false := by
  cases l with
  | nil => exact absurd rfl hne
  | cons c l =>
      rw [List.cons_append, endsLine_cons, beq_eq_false_iff_ne]
      exact (List.ne_of_not_mem_cons hline).symm

/-! ## Single steps -/

@[simp] theorem advance_here (s : Splitting) (c : Char) : (s.advance c).here = s.here.after c := rfl

@[simp] theorem flush_here (s : Splitting) : s.flush.here = s.here := by
  unfold flush
  split <;> rfl

theorem flush_of_between {s : Splitting} (h : s.mode = .between) : s.flush = s := by
  simp [flush, h]

theorem flush_flush (s : Splitting) : s.flush.flush = s.flush := by
  cases hm : s.mode <;> simp [flush, hm]

theorem flush_mode {s : Splitting} (h : s.mode.opening? = none) : s.flush.mode = .between := by
  cases hm : s.mode with
  | between => simp [flush, hm]
  | run start taken => simp [flush, hm]
  | quote start taken => simp [hm] at h

theorem stepPlain_quote (s : Splitting) :
    s.stepPlain '"' = { s.flush with mode := .quote s.here ['"'] }.advance '"' := by
  simp [stepPlain]

theorem stepPlain_separator (s : Splitting) {c : Char} (h : Text.isSeparator c = true) :
    s.stepPlain c = s.flush.advance c := by
  simp [stepPlain, ne_quote_of_separator h, h]

theorem stepPlain_symbol (s : Splitting) {c : Char} (h : isSymbol c = true) :
    s.stepPlain c = (s.flush.emit c).advance c := by
  simp [stepPlain, ne_quote_of_symbol h, not_separator_of_symbol h, h]

theorem stepPlain_ordinary_between {s : Splitting} (hm : s.mode = .between) {c : Char}
    (hc : isOrdinary c = true) : s.stepPlain c = { s with mode := .run s.here [c] }.advance c := by
  obtain ⟨hquote, hsep, hsym⟩ := isOrdinary_iff.mp hc
  simp [stepPlain, hquote, hsep, hsym, hm]

theorem stepPlain_ordinary_run {s : Splitting} {start : Mark} {taken : List Char}
    (hm : s.mode = .run start taken) {c : Char} (hc : isOrdinary c = true) :
    s.stepPlain c = { s with mode := .run start (c :: taken) }.advance c := by
  obtain ⟨hquote, hsep, hsym⟩ := isOrdinary_iff.mp hc
  simp [stepPlain, hquote, hsep, hsym, hm]

theorem stepPlain_here (s : Splitting) (c : Char) : (s.stepPlain c).here = s.here.after c := by
  unfold stepPlain
  split
  · simp [advance]
  · split
    · simp
    · split
      · simp [emit]
      · split <;> rfl

theorem read_here (s : Splitting) (c : Char) : (s.read c).here = s.here.after c := by
  unfold read
  split
  · split <;> rfl
  · exact stepPlain_here s c

theorem read_of_opening_none {s : Splitting} (h : s.mode.opening? = none) (c : Char) :
    s.read c = s.stepPlain c := by
  unfold read
  split
  next start taken hm => simp [hm] at h
  next => rfl

theorem endStatement_of_opening_none {s : Splitting} (h : s.mode.opening? = none) :
    s.endStatement terminator = .ok (s.read terminator) := by
  rw [read_of_opening_none h, stepPlain_symbol s isSymbol_terminator]
  unfold endStatement
  split
  next start taken hm => simp [hm] at h
  next => rfl

theorem stepQuote_of_ne_break (s : Splitting) {start : Mark} {taken : List Char} {c : Char}
    (hm : s.mode = .quote start taken) (hc : c ≠ '\n') :
    s.stepQuote start taken c = .ok (s.read c) := by
  unfold stepQuote read
  by_cases hq : c = '"'
  · simp [hm, hq]
  · simp [hm, hq, hc]

/-- A character with more of its line behind it is never a fault. -/
theorem step_inner (s : Splitting) {c : Char} {rest : List Char} (hrest : endsLine rest = false)
    (hc : c ≠ '\n') : s.step c rest = .ok (s.read c) := by
  unfold step
  rw [if_neg (fun h => hc h.1), hrest, if_neg Bool.false_ne_true]
  split
  next start taken hm => exact stepQuote_of_ne_break s hm hc
  next hm =>
      have hopen : s.mode.opening? = none := by
        cases h : s.mode with
        | between => rfl
        | run start taken => rfl
        | quote start taken => exact absurd h (hm start taken)
      rw [read_of_opening_none hopen]

/-- A line ends with a fault unless its last character is the terminator. -/
theorem step_last_ne (s : Splitting) {c : Char} {rest : List Char} (hrest : endsLine rest = true)
    (hc : c ≠ '\n') (ht : c ≠ terminator) :
    s.step c rest = .error (.missingTerminator (s.here.spanOf c)) := by
  simp [step, hrest, hc, ht, missingTerminator]

theorem step_last_closed {s : Splitting} {rest : List Char} (hrest : endsLine rest = true)
    (hopen : s.mode.opening? = none) : s.step terminator rest = .ok (s.read terminator) := by
  have hbreak : terminator ≠ '\n' := by decide
  simp [step, hrest, hbreak, endStatement_of_opening_none hopen]

theorem step_last_open {s : Splitting} {start : Mark} {rest : List Char}
    (hrest : endsLine rest = true) (hopen : s.mode.opening? = some start) :
    s.step terminator rest = .error (.unterminatedQuote (start.spanTo (s.here.position + 1))) := by
  have hbreak : terminator ≠ '\n' := by decide
  have hsize : terminator.utf8Size = 1 := rfl
  cases hm : s.mode with
  | between => simp [hm] at hopen
  | run start taken => simp [hm] at hopen
  | quote begun taken =>
      obtain rfl : begun = start := by simpa [hm] using hopen
      simp [step, hrest, hbreak, endStatement, hm, unterminated, hsize]

/-- A line break that another line break or the end of the text follows leaves an empty line. -/
theorem step_break_empty (s : Splitting) {rest : List Char} (hrest : endsLine rest = true)
    (hpos : 0 < s.here.position) :
    s.step '\n' rest = .error (.missingTerminator
      ⟨s.here.position + 1, s.here.position + 1, s.here.line + 1, 1⟩) := by
  have hne : s.here.position ≠ 0 := by omega
  have hterm : ('\n' : Char) ≠ terminator := by decide
  simp [step, hrest, hne, hterm, missingTerminator, hpos]

/-- A line break at the very beginning ends an empty first line. -/
theorem step_break_first {s : Splitting} (rest : List Char) (hpos : s.here.position = 0) :
    s.step '\n' rest = .error (.missingTerminator (s.here.spanOf '\n')) := by
  simp [step, hpos, missingTerminator]

/-- Between lexemes a line break before a line that is not empty is a separator. -/
theorem step_break {s : Splitting} {rest : List Char} (hrest : endsLine rest = false)
    (hmode : s.mode = .between) (hpos : 0 < s.here.position) :
    s.step '\n' rest = .ok (s.advance '\n') := by
  have hne : s.here.position ≠ 0 := by omega
  have hsep : Text.isSeparator '\n' = true := by decide
  simp [step, hrest, hne, hmode, stepPlain, hsep, flush_of_between hmode]

/-- An accepted character moves the state by `read`. It is the terminator outside of strings if it
ends its line, and a line break only outside of strings and behind something. -/
theorem step_spec {s s' : Splitting} {c : Char} {rest : List Char} (h : s.step c rest = .ok s') :
    s' = s.read c ∧ (c = '\n' → 0 < s.here.position ∧ s.mode.opening? = none) ∧
      (endsLine rest = true → c = terminator ∧ s.mode.opening? = none) := by
  by_cases hc : c = '\n'
  · subst hc
    by_cases hpos : s.here.position = 0
    · simp [step_break_first rest hpos] at h
    · have hlt : 0 < s.here.position := by omega
      cases hrest : endsLine rest with
      | true => simp [step_break_empty s hrest hlt] at h
      | false =>
          unfold step at h
          rw [if_neg (fun hc => hpos hc.2), hrest, if_neg Bool.false_ne_true] at h
          cases hm : s.mode with
          | between => simp_all [read]
          | run start taken => simp_all [read]
          | quote start taken => simp [hm, stepQuote] at h
  · cases hrest : endsLine rest with
    | false =>
        rw [step_inner s hrest hc] at h
        cases h
        exact ⟨rfl, fun hb => absurd hb hc, fun ht => absurd ht Bool.false_ne_true⟩
    | true =>
        by_cases ht : c = terminator
        · subst ht
          cases hopen : s.mode.opening? with
          | none =>
              rw [step_last_closed hrest hopen] at h
              cases h
              exact ⟨rfl, fun hb => absurd hb hc, fun _ => ⟨rfl, rfl⟩⟩
          | some start => simp [step_last_open hrest hopen] at h
        · simp [step_last_ne s hrest hc ht] at h

/-- The conditions of `step_spec` are all that a step asks for. -/
theorem step_of_accepted {s : Splitting} {c : Char} {rest : List Char}
    (hbreak : c = '\n' → 0 < s.here.position ∧ s.mode.opening? = none)
    (hend : endsLine rest = true → c = terminator ∧ s.mode.opening? = none) :
    s.step c rest = .ok (s.read c) := by
  cases hrest : endsLine rest with
  | true =>
      obtain ⟨rfl, hopen⟩ := hend hrest
      exact step_last_closed hrest hopen
  | false =>
      by_cases hc : c = '\n'
      · obtain ⟨hpos, hopen⟩ := hbreak hc
        unfold step
        rw [if_neg (fun h => Nat.ne_of_gt hpos h.2), hrest, if_neg Bool.false_ne_true,
          read_of_opening_none hopen]
        split
        next start taken hm => simp [hm] at hopen
        next => rfl
      · exact step_inner s hrest hc

/-- A step sees of the text behind its character only whether the line ends. -/
theorem step_congr (s : Splitting) (c : Char) {rest rest' : List Char}
    (h : endsLine rest = endsLine rest') : s.step c rest = s.step c rest' := by
  simp only [step, h]

/-! ## Strings -/

theorem stepPlain_opening {s : Splitting} (h : s.mode.opening? = none) {c : Char} (hc : c ≠ '"') :
    (s.stepPlain c).mode.opening? = none := by
  rcases char_cases c with hquote | hsep | hsym | hord
  · exact absurd hquote hc
  · rw [stepPlain_separator s hsep]
    exact congrArg Mode.opening? (flush_mode h)
  · rw [stepPlain_symbol s hsym]
    exact congrArg Mode.opening? (flush_mode h)
  · cases hm : s.mode with
    | between => rw [stepPlain_ordinary_between hm hord]; rfl
    | run start taken => rw [stepPlain_ordinary_run hm hord]; rfl
    | quote start taken => simp [hm] at h

/-- A double quote opens a string or closes the one that is open; no other character does. -/
theorem read_opening (s : Splitting) (c : Char) :
    (s.read c).mode.opening? =
      if c = '"' then (if s.mode.opening? = none then some s.here else none)
      else s.mode.opening? := by
  cases hopen : s.mode.opening? with
  | none =>
      rw [read_of_opening_none hopen]
      by_cases hc : c = '"'
      · subst hc
        rw [stepPlain_quote]
        rfl
      · rw [stepPlain_opening hopen hc, if_neg hc]
  | some start =>
      cases hm : s.mode with
      | between => simp [hm] at hopen
      | run start taken => simp [hm] at hopen
      | quote begun taken =>
          have hbegun : begun = start := by simpa [hm] using hopen
          by_cases hc : c = '"' <;> simp [read, hm, hc, hbegun, advance]

/-! ## Runs -/

theorem scan_cons_of_ok {s s' : Splitting} {c : Char} {rest : List Char}
    (h : s.step c rest = .ok s') : s.scan (c :: rest) = s'.scan rest := by
  simp [scan, h, Except.bind]

theorem scan_cons_of_error {s : Splitting} {e : LexError} {c : Char} {rest : List Char}
    (h : s.step c rest = .error e) : s.scan (c :: rest) = .error e := by
  simp [scan, h, Except.bind]

theorem scan_cons_spec {s s' : Splitting} {c : Char} {rest : List Char}
    (h : s.scan (c :: rest) = .ok s') :
    s.step c rest = .ok (s.read c) ∧ (s.read c).scan rest = .ok s' := by
  cases hs : s.step c rest with
  | error e => simp [scan_cons_of_error hs] at h
  | ok t =>
      obtain ⟨rfl, -, -⟩ := step_spec hs
      exact ⟨rfl, by rwa [scan_cons_of_ok hs] at h⟩

/-- Behind a part of an accepted text the pass goes on from what was read. -/
theorem scan_append_spec {s s' : Splitting} {xs ys : List Char} (h : s.scan (xs ++ ys) = .ok s') :
    (xs.foldl read s).scan ys = .ok s' := by
  induction xs generalizing s with
  | nil => exact h
  | cons c xs ih => exact ih (scan_cons_spec h).2

/-- What an accepted text reads before a character does not depend on what follows the character. -/
theorem scan_append_cons {s s' : Splitting} {xs rest : List Char} {c : Char}
    (h : s.scan (xs ++ c :: rest) = .ok s') (rest' : List Char) :
    s.scan (xs ++ c :: rest') = (xs.foldl read s).scan (c :: rest') := by
  induction xs generalizing s with
  | nil => rfl
  | cons d xs ih =>
      obtain ⟨hstep, hscan⟩ := scan_cons_spec h
      have hsame : endsLine (xs ++ c :: rest') = endsLine (xs ++ c :: rest) := by cases xs <;> rfl
      rw [List.cons_append, scan_cons_of_ok (step_congr s d hsame ▸ hstep), ih hscan,
        List.foldl_cons]

theorem scan_here {s s' : Splitting} {cs : List Char} (h : s.scan cs = .ok s') :
    s'.here = s.here.behind cs := by
  induction cs generalizing s with
  | nil =>
      obtain rfl : s = s' := by simpa [scan] using h
      rfl
  | cons c cs ih =>
      rw [ih (scan_cons_spec h).2, read_here, Mark.behind_cons]

theorem foldl_read_here (s : Splitting) (cs : List Char) :
    (cs.foldl read s).here = s.here.behind cs := by
  induction cs generalizing s with
  | nil => rfl
  | cons c cs ih => rw [List.foldl_cons, ih, read_here, Mark.behind_cons]

/-- The characters of a line before its last one are only read. -/
theorem scan_inner (s : Splitting) {cs : List Char} (hcs : '\n' ∉ cs) {c : Char} (hc : c ≠ '\n')
    (rest : List Char) : s.scan (cs ++ c :: rest) = (cs.foldl read s).scan (c :: rest) := by
  induction cs generalizing s with
  | nil => rfl
  | cons d cs ih =>
      have hd : d ≠ '\n' := (List.ne_of_not_mem_cons hcs).symm
      have htail : '\n' ∉ cs := List.not_mem_of_not_mem_cons hcs
      have hinner : '\n' ∉ cs ++ [c] := by simpa [htail] using hc.symm
      have hrest : endsLine (cs ++ c :: rest) = false := by
        simpa using endsLine_append (by simp) hinner rest
      rw [List.cons_append, scan_cons_of_ok (step_inner s hrest hd), ih _ htail, List.foldl_cons]

/-- The text before a line break is read as if it were all. -/
theorem scan_append_break (s : Splitting) (xs ys : List Char) :
    s.scan (xs ++ '\n' :: ys) = (s.scan xs).bind fun s' => s'.scan ('\n' :: ys) := by
  induction xs generalizing s with
  | nil => rfl
  | cons c xs ih =>
      have hrest : endsLine (xs ++ '\n' :: ys) = endsLine xs := by cases xs <;> rfl
      rw [List.cons_append]
      cases hs : s.step c xs with
      | error e =>
          rw [scan_cons_of_error hs, scan_cons_of_error (step_congr s c hrest ▸ hs)]
          rfl
      | ok t => rw [scan_cons_of_ok hs, scan_cons_of_ok (step_congr s c hrest ▸ hs), ih]

theorem read_terminator_mode {s : Splitting} (h : s.mode.opening? = none) :
    (s.read terminator).mode = .between := by
  rw [read_of_opening_none h, stepPlain_symbol s isSymbol_terminator]
  exact flush_mode h

theorem scan_mode_of_ne_nil {s s' : Splitting} {cs : List Char} (hne : cs ≠ [])
    (h : s.scan cs = .ok s') : s'.mode = .between := by
  induction cs generalizing s with
  | nil => exact absurd rfl hne
  | cons c cs ih =>
      obtain ⟨hstep, hscan⟩ := scan_cons_spec h
      cases cs with
      | nil =>
          obtain ⟨rfl, hopen⟩ := (step_spec hstep).2.2 endsLine_nil
          obtain rfl : s.read terminator = s' := by simpa [scan] using hscan
          exact read_terminator_mode hopen
      | cons d cs => exact ih (by simp) hscan

/-- Nothing is being collected where an accepted text ends. -/
theorem scan_mode {s s' : Splitting} {cs : List Char} (hs : s.mode = .between)
    (h : s.scan cs = .ok s') : s'.mode = .between := by
  cases cs with
  | nil =>
      obtain rfl : s = s' := by simpa [scan] using h
      exact hs
  | cons c cs => exact scan_mode_of_ne_nil (List.cons_ne_nil c cs) h

end Splitting

/-- The end of the text adds no fault and no lexeme to what the pass has found. -/
theorem splitChars_eq_map (cs : List Char) :
    splitChars cs = (Splitting.initial.scan cs).map fun s => s.found.reverse := by
  unfold splitChars
  cases h : Splitting.initial.scan cs with
  | error e => rfl
  | ok s =>
      have hmode : s.mode = .between := Splitting.scan_mode rfl h
      simp [Except.bind, Except.map, Splitting.finish, Splitting.flush, hmode]

theorem splitChars_eq_ok_iff {cs : List Char} {ls : List Lexeme} :
    splitChars cs = .ok ls ↔ ∃ s, Splitting.initial.scan cs = .ok s ∧ s.found.reverse = ls := by
  rw [splitChars_eq_map]
  cases Splitting.initial.scan cs <;> simp [Except.map]

end StatementLexer
