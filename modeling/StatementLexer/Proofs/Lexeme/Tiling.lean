import StatementLexer.Proofs.Lexeme.Scan

/-! # Tilings

A tiling of a text is a list of lexemes that stand in it in order, with nothing but separators in
the gaps before, between and behind them. Each lexeme has one of three shapes, and two runs do not
touch, so that no run could be longer. The lexemes of a text that can be split tile it, and no other
slices do. Main statement: `split_tiles_uniquely`.
-/

namespace StatementLexer

inductive Shape where
  | symbol
  | quoted
  | run
  deriving DecidableEq, Repr

/-- Whether a text has a shape: a single symbol, a text between two double quotes on one line, or a
run of ordinary characters. -/
def Shape.Describes : Shape → List Char → Prop
  | symbol, cs => ∃ c, isSymbol c = true ∧ cs = [c]
  | quoted, cs => ∃ body, '"' ∉ body ∧ '\n' ∉ body ∧ cs = '"' :: (body ++ ['"'])
  | run, cs => cs ≠ [] ∧ ∀ c ∈ cs, isOrdinary c = true

/-- The lexemes tile the text from byte offset `n` on. With `touching` a run ends at `n`, and then
no run may start there. -/
def Tiles (n : Nat) (touching : Bool) (cs : List Char) : List Lexeme → Prop
  | [] => ∀ c ∈ cs, Text.isSeparator c = true
  | l :: ls => ∃ gap shape rest, cs = gap ++ (l.text.toList ++ rest) ∧
      (∀ c ∈ gap, Text.isSeparator c = true) ∧ Shape.Describes shape l.text.toList ∧
      (touching = true → shape = .run → gap ≠ []) ∧ l.span.start = n + Text.byteLength gap ∧
      l.span.stop = l.span.start + Text.byteLength l.text.toList ∧
      Tiles l.span.stop (shape == .run) rest ls

/-- A lexeme as a slice of its text, without line and column. -/
def Lexeme.slice (l : Lexeme) : Nat × Nat × String :=
  (l.span.start, l.span.stop, l.text)

namespace Shape

def ofChar (c : Char) : Shape :=
  if c = '"' then .quoted else if isSymbol c then .symbol else .run

theorem Describes.exists_cons {shape : Shape} {cs : List Char} (h : shape.Describes cs) :
    ∃ c rest, cs = c :: rest ∧ Text.isSeparator c = false ∧ shape = ofChar c ∧
      isOrdinary c = (shape == .run) := by
  cases shape with
  | symbol =>
      rcases h with ⟨c, hc, rfl⟩
      have hquote := ne_quote_of_symbol hc
      exact ⟨c, [], rfl, not_separator_of_symbol hc, by simp [ofChar, hquote, hc],
        not_ordinary_of_symbol hc⟩
  | quoted =>
      rcases h with ⟨body, -, -, rfl⟩
      exact ⟨'"', body ++ ['"'], rfl, by decide, rfl, by decide⟩
  | run =>
      rcases h with ⟨hne, hall⟩
      obtain ⟨c, rest, rfl⟩ := List.exists_cons_of_ne_nil hne
      have hc := hall c List.mem_cons_self
      obtain ⟨hquote, hsep, hsym⟩ := isOrdinary_iff.mp hc
      exact ⟨c, rest, rfl, hsep, by simp [ofChar, hquote, hsym], hc⟩

theorem Describes.shape_eq {shape shape' : Shape} {cs ds rest tail : List Char}
    (h : shape.Describes cs) (h' : shape'.Describes ds) (heq : cs ++ rest = ds ++ tail) :
    shape' = shape := by
  obtain ⟨c, inner, rfl, -, hshape, -⟩ := h.exists_cons
  obtain ⟨c', inner', rfl, -, hshape', -⟩ := h'.exists_cons
  obtain ⟨rfl, -⟩ := List.cons.inj heq
  rw [hshape, hshape']

theorem Describes.unique {shape shape' : Shape} {cs : List Char} (h : shape.Describes cs)
    (h' : shape'.Describes cs) : shape' = shape :=
  h.shape_eq h' (congrArg (· ++ []) rfl)

/-- The text of any shape stays on its line and leaves no string open. -/
theorem Describes.line {shape : Shape} {cs : List Char} (h : shape.Describes cs) :
    '\n' ∉ cs ∧ cs.count '"' % 2 = 0 := by
  cases shape with
  | symbol =>
      obtain ⟨c, hc, rfl⟩ := h
      have hbreak : c ≠ '\n' := by
        rintro rfl
        exact absurd hc (by decide)
      have hquote := ne_quote_of_symbol hc
      simp [hbreak.symm, hquote]
  | quoted =>
      obtain ⟨body, hbody, hbreak, rfl⟩ := h
      simp [hbreak, List.count_eq_zero.mpr hbody]
  | run =>
      have hbreak : '\n' ∉ cs := fun hmem => absurd (h.2 _ hmem) (by decide)
      have hquote : '"' ∉ cs := fun hmem => absurd (h.2 _ hmem) (by decide)
      simp [hbreak, List.count_eq_zero.mpr hquote]

end Shape

/-! ## Uniqueness -/

/-- A lexeme ends where its shape says, if a run is followed by no ordinary character. -/
theorem Shape.Describes.append_inj {shape : Shape} {cs ds rest tail : List Char}
    (hcs : shape.Describes cs) (hds : shape.Describes ds)
    (hrest : shape = .run → ∀ c, rest.head? = some c → isOrdinary c = false)
    (htail : shape = .run → ∀ c, tail.head? = some c → isOrdinary c = false)
    (h : cs ++ rest = ds ++ tail) : cs = ds ∧ rest = tail := by
  cases shape with
  | symbol =>
      rcases hcs with ⟨c, -, rfl⟩
      rcases hds with ⟨d, -, rfl⟩
      exact List.append_inj h rfl
  | quoted =>
      rcases hcs with ⟨body, hbody, -, rfl⟩
      rcases hds with ⟨body', hbody', -, rfl⟩
      have hinside : body ++ '"' :: rest = body' ++ '"' :: tail := by simpa using h
      obtain ⟨rfl, rfl⟩ := append_cons_inj hbody hbody' hinside
      exact ⟨rfl, rfl⟩
  | run => exact append_inj_of_stop hcs.2 (hrest rfl) hds.2 (htail rfl) h

namespace Tiles

theorem head_not_ordinary {n : Nat} {cs : List Char} {ls : List Lexeme} (h : Tiles n true cs ls) :
    ∀ c, cs.head? = some c → isOrdinary c = false := by
  intro c hc
  cases ls with
  | nil => exact not_ordinary_of_separator (h c (List.mem_of_head? hc))
  | cons l ls =>
      rcases h with ⟨gap, shape, rest, rfl, hgap, hshape, hrun, -⟩
      cases gap with
      | cons g gap =>
          obtain rfl : g = c := by simpa using hc
          exact not_ordinary_of_separator (hgap g List.mem_cons_self)
      | nil =>
          obtain ⟨d, tail, hd, -, -, hord⟩ := hshape.exists_cons
          obtain rfl : d = c := by simpa [hd] using hc
          rw [hord, beq_eq_false_iff_ne]
          exact fun hs => hrun rfl hs rfl

theorem stop_of_shape {n : Nat} {shape : Shape} {cs : List Char} {ls : List Lexeme}
    (h : Tiles n (shape == .run) cs ls) (hs : shape = .run) :
    ∀ c, cs.head? = some c → isOrdinary c = false := by
  subst hs
  exact head_not_ordinary h

theorem piece_stop {shape : Shape} {cs : List Char} (h : shape.Describes cs) (rest : List Char) :
    ∀ c, (cs ++ rest).head? = some c → Text.isSeparator c = false := by
  obtain ⟨d, tail, rfl, hsep, -⟩ := h.exists_cons
  intro c hc
  obtain rfl : d = c := by simpa using hc
  exact hsep

theorem not_separators {n : Nat} {touching : Bool} {cs : List Char} {l : Lexeme} {ls : List Lexeme}
    (h : Tiles n touching cs (l :: ls)) : ¬ ∀ c ∈ cs, Text.isSeparator c = true := by
  intro hall
  rcases h with ⟨gap, shape, rest, rfl, -, hshape, -⟩
  obtain ⟨c, tail, htext, hsep, -⟩ := hshape.exists_cons
  have hc := hall c (by simp [htext])
  rw [hsep] at hc
  exact Bool.false_ne_true hc

theorem slice_unique {n : Nat} {touching : Bool} {cs : List Char} {ls ms : List Lexeme}
    (h : Tiles n touching cs ls) (h' : Tiles n touching cs ms) :
    ls.map Lexeme.slice = ms.map Lexeme.slice := by
  induction ls generalizing n touching cs ms with
  | nil =>
      cases ms with
      | nil => rfl
      | cons m ms => exact absurd h h'.not_separators
  | cons l ls ih =>
      cases ms with
      | nil => exact absurd h' h.not_separators
      | cons m ms =>
          rcases h with ⟨gap, shape, rest, rfl, hgap, hshape, -, hstart, hstop, htiles⟩
          rcases h' with ⟨gap', shape', rest', heq, hgap', hshape', -, hstart', hstop', htiles'⟩
          obtain ⟨rfl, hpiece⟩ := append_inj_of_stop hgap (piece_stop hshape rest) hgap'
            (piece_stop hshape' rest') heq
          obtain rfl := hshape.shape_eq hshape' hpiece
          obtain ⟨htext, rfl⟩ := hshape.append_inj hshape' htiles.stop_of_shape
            htiles'.stop_of_shape hpiece
          have hspan : l.span.start = m.span.start := hstart.trans hstart'.symm
          have hend : l.span.stop = m.span.stop := by rw [hstop, hstop', hspan, htext]
          rw [hend] at htiles
          rw [List.map_cons, List.map_cons, ih htiles htiles']
          simp only [Lexeme.slice, hspan, hend, String.toList_inj.mp htext]

/-- Each lexeme of a tiling has a shape and stands where its span says. -/
theorem exists_of_mem {n : Nat} {touching : Bool} {cs : List Char} {ls : List Lexeme}
    (h : Tiles n touching cs ls) {l : Lexeme} (hl : l ∈ ls) :
    (∃ shape : Shape, shape.Describes l.text.toList) ∧
      ∃ before after, cs = before ++ l.text.toList ++ after ∧
        l.span.start = n + Text.byteLength before ∧
        l.span.stop = n + Text.byteLength before + Text.byteLength l.text.toList := by
  induction ls generalizing n touching cs with
  | nil => exact absurd hl List.not_mem_nil
  | cons m ls ih =>
      rcases h with ⟨gap, shape, rest, rfl, -, hshape, -, hstart, hstop, htiles⟩
      rcases List.mem_cons.mp hl with rfl | hl
      · exact ⟨⟨shape, hshape⟩, gap, rest, by simp, hstart, by rw [hstop, hstart]⟩
      · obtain ⟨hmem, before, after, rfl, hbegin, hend⟩ := ih htiles hl
        refine ⟨hmem, gap ++ m.text.toList ++ before, after, by simp, ?_, ?_⟩
        · rw [hbegin, hstop, hstart, Text.byteLength_append, Text.byteLength_append]
          omega
        · rw [hend, hstop, hstart, Text.byteLength_append, Text.byteLength_append]
          omega

/-! ## Building a tiling from the front -/

theorem cons_separator {n : Nat} {touching : Bool} {c : Char} {cs : List Char} {ls : List Lexeme}
    (hc : Text.isSeparator c = true) (h : Tiles (n + c.utf8Size) false cs ls) :
    Tiles n touching (c :: cs) ls := by
  cases ls with
  | nil =>
      intro d hd
      rcases List.mem_cons.mp hd with rfl | hd
      · exact hc
      · exact h d hd
  | cons l ls =>
      rcases h with ⟨gap, shape, rest, rfl, hgap, hshape, -, hstart, hstop, htiles⟩
      refine ⟨c :: gap, shape, rest, rfl, ?_, hshape, by simp, ?_, hstop, htiles⟩
      · intro d hd
        rcases List.mem_cons.mp hd with rfl | hd
        · exact hc
        · exact hgap d hd
      · rw [hstart, Text.byteLength_cons, Nat.add_assoc]

theorem cons_piece {n : Nat} {shape : Shape} {cs : List Char} {l : Lexeme} {ls : List Lexeme}
    (hshape : shape.Describes l.text.toList) (hstart : l.span.start = n)
    (hstop : l.span.stop = n + Text.byteLength l.text.toList)
    (h : Tiles l.span.stop (shape == .run) cs ls) :
    Tiles n false (l.text.toList ++ cs) (l :: ls) :=
  ⟨[], shape, cs, rfl, by simp, hshape, by simp, hstart, by rw [hstop, hstart], h⟩

theorem touching_of_head {n : Nat} {c : Char} {cs : List Char} {ls : List Lexeme}
    (hc : isOrdinary c = false) (h : Tiles n false (c :: cs) ls) : Tiles n true (c :: cs) ls := by
  cases ls with
  | nil => exact h
  | cons l ls =>
      rcases h with ⟨gap, shape, rest, heq, hgap, hshape, -, htail⟩
      refine ⟨gap, shape, rest, heq, hgap, hshape, ?_, htail⟩
      rintro - rfl rfl
      obtain ⟨d, tail, htext, -, -, hord⟩ := hshape.exists_cons
      obtain ⟨rfl, -⟩ := List.cons.inj (heq.trans (by rw [htext]; rfl))
      rw [hc] at hord
      exact absurd hord.symm (by decide)

end Tiles

namespace Splitting

/-- The lexemes still to be found in the text ahead: the one being collected, if any, and a tiling
behind it. -/
def Ahead (s : Splitting) (cs : List Char) (ls : List Lexeme) : Prop :=
  match s.mode with
  | .between => Tiles s.here.position false cs ls
  | .run start taken => ∃ more rest l ms, cs = more ++ rest ∧ ls = l :: ms ∧
      l.text.toList = taken.reverse ++ more ∧ (∀ c ∈ more, isOrdinary c = true) ∧
      l.span.start = start.position ∧ l.span.stop = s.here.position + Text.byteLength more ∧
      Tiles l.span.stop true rest ms
  | .quote start taken => ∃ more rest l ms, cs = more ++ '"' :: rest ∧ ls = l :: ms ∧
      l.text.toList = taken.reverse ++ (more ++ ['"']) ∧ '"' ∉ more ∧ '\n' ∉ more ∧
      l.span.start = start.position ∧ l.span.stop = s.here.position + Text.byteLength more + 1 ∧
      Tiles l.span.stop false rest ms

theorem ahead_iff_tiles {s : Splitting} (hm : s.mode = .between) {cs : List Char}
    {ls : List Lexeme} : s.Ahead cs ls ↔ Tiles s.here.position false cs ls := by
  simp [Ahead, hm]

theorem ahead_open {s : Splitting} (hm : s.mode = .between) {cs : List Char} {ls : List Lexeme}
    (h : ({ s with mode := .quote s.here ['"'] }.advance '"').Ahead cs ls) :
    s.Ahead ('"' :: cs) ls := by
  rcases h with ⟨more, rest, l, ms, rfl, rfl, htext, hmore, hbreak, hstart, hstop, htiles⟩
  have htext' : l.text.toList = '"' :: (more ++ ['"']) := by simpa using htext
  have hcs : '"' :: (more ++ '"' :: rest) = l.text.toList ++ rest := by simp [htext']
  have hsize : Text.byteLength l.text.toList = 1 + Text.byteLength more + 1 := by
    rw [htext', Text.byteLength_cons, Text.byteLength_append]
    rfl
  have hend : l.span.stop = s.here.position + 1 + Text.byteLength more + 1 := hstop
  have hshape : Shape.quoted.Describes l.text.toList := ⟨more, hmore, hbreak, htext'⟩
  rw [ahead_iff_tiles hm, hcs]
  exact Tiles.cons_piece hshape hstart (by omega) htiles

theorem ahead_run {s : Splitting} (hm : s.mode = .between) {c : Char} (hc : isOrdinary c = true)
    {cs : List Char} {ls : List Lexeme}
    (h : ({ s with mode := .run s.here [c] }.advance c).Ahead cs ls) : s.Ahead (c :: cs) ls := by
  rcases h with ⟨more, rest, l, ms, rfl, rfl, htext, hmore, hstart, hstop, htiles⟩
  have htext' : l.text.toList = c :: more := by simpa using htext
  have hcs : c :: (more ++ rest) = l.text.toList ++ rest := by simp [htext']
  have hshape : Shape.run.Describes l.text.toList := by
    refine ⟨by simp [htext'], ?_⟩
    rw [htext']
    exact List.forall_mem_cons.mpr ⟨hc, hmore⟩
  rw [ahead_iff_tiles hm, hcs]
  refine Tiles.cons_piece hshape hstart ?_ htiles
  rw [hstop, htext', Text.byteLength_cons, advance_here, Mark.after_position, Nat.add_assoc]

theorem ahead_symbol {s : Splitting} (hm : s.mode = .between) {c : Char} (hc : isSymbol c = true)
    {cs : List Char} {ls : List Lexeme} (h : ((s.emit c).advance c).Ahead cs ls) :
    s.Ahead (c :: cs) (⟨String.singleton c, s.here.spanOf c⟩ :: ls) := by
  rw [ahead_iff_tiles (s := (s.emit c).advance c) hm, advance_here, Mark.after_position] at h
  have htext : (String.singleton c).toList = [c] := String.toList_singleton c
  have hcs : c :: cs = (String.singleton c).toList ++ cs := by rw [htext]; rfl
  have hshape : Shape.symbol.Describes (String.singleton c).toList := ⟨c, hc, htext⟩
  rw [ahead_iff_tiles hm, hcs]
  refine Tiles.cons_piece (l := ⟨String.singleton c, s.here.spanOf c⟩) hshape rfl ?_ h
  rw [htext, Text.byteLength_cons, Text.byteLength_nil, Nat.add_zero]
  rfl

theorem ahead_between {s : Splitting} (hm : s.mode = .between) {c : Char} {cs : List Char}
    {ls : List Lexeme} (h : (s.read c).Ahead cs ls) :
    ∃ new, (s.read c).found = new.reverse ++ s.found ∧ s.Ahead (c :: cs) (new ++ ls) := by
  have hopen : s.mode.opening? = none := congrArg Mode.opening? hm
  rw [read_of_opening_none hopen] at h ⊢
  rcases char_cases c with rfl | hsep | hsym | hord
  · rw [stepPlain_quote, flush_of_between hm] at h ⊢
    exact ⟨[], rfl, ahead_open hm h⟩
  · rw [stepPlain_separator s hsep, flush_of_between hm] at h ⊢
    rw [ahead_iff_tiles (s := s.advance c) hm, advance_here, Mark.after_position] at h
    exact ⟨[], rfl, (ahead_iff_tiles hm).mpr (Tiles.cons_separator hsep h)⟩
  · rw [stepPlain_symbol s hsym, flush_of_between hm] at h ⊢
    exact ⟨[⟨String.singleton c, s.here.spanOf c⟩], rfl, ahead_symbol hm hsym h⟩
  · rw [stepPlain_ordinary_between hm hord] at h ⊢
    exact ⟨[], rfl, ahead_run hm hord h⟩

/-- Before a character that is not ordinary the end of a run may be taken as reached. -/
theorem read_flush {s : Splitting} (hopen : s.mode.opening? = none) {c : Char}
    (hc : isOrdinary c = false) : s.flush.read c = s.read c := by
  have hflush : s.flush.mode.opening? = none := congrArg Mode.opening? (flush_mode hopen)
  rw [read_of_opening_none hopen, read_of_opening_none hflush]
  rcases char_cases c with rfl | hsep | hsym | hord
  · rw [stepPlain_quote, stepPlain_quote, flush_flush, flush_here]
  · rw [stepPlain_separator _ hsep, stepPlain_separator _ hsep, flush_flush]
  · rw [stepPlain_symbol _ hsym, stepPlain_symbol _ hsym, flush_flush]
  · rw [hc] at hord
    exact absurd hord Bool.false_ne_true

theorem ahead_inRun {s : Splitting} {start : Mark} {taken : List Char}
    (hm : s.mode = .run start taken) {c : Char} {cs : List Char} {ls : List Lexeme}
    (h : (s.read c).Ahead cs ls) :
    ∃ new, (s.read c).found = new.reverse ++ s.found ∧ s.Ahead (c :: cs) (new ++ ls) := by
  have hopen : s.mode.opening? = none := congrArg Mode.opening? hm
  cases hc : isOrdinary c with
  | true =>
      rw [read_of_opening_none hopen, stepPlain_ordinary_run hm hc] at h ⊢
      rcases h with ⟨more, rest, l, ms, rfl, rfl, htext, hmore, hstart, hstop, htiles⟩
      refine ⟨[], rfl, ?_⟩
      simp only [Ahead, hm]
      refine ⟨c :: more, rest, l, ms, rfl, rfl, by simpa using htext,
        List.forall_mem_cons.mpr ⟨hc, hmore⟩, hstart, ?_, htiles⟩
      rw [hstop, advance_here, Mark.after_position, Text.byteLength_cons, Nat.add_assoc]
  | false =>
      rw [← read_flush hopen hc] at h ⊢
      obtain ⟨new, hfound, hahead⟩ := ahead_between (flush_mode hopen) h
      rw [ahead_iff_tiles (flush_mode hopen), flush_here] at hahead
      have hflush : s.flush.found =
          ⟨String.ofList taken.reverse, start.spanTo s.here.position⟩ :: s.found := by
        simp [flush, hm]
      refine ⟨⟨String.ofList taken.reverse, start.spanTo s.here.position⟩ :: new, ?_, ?_⟩
      · rw [hfound, hflush, List.reverse_cons, List.append_assoc, List.singleton_append]
      · simp only [Ahead, hm]
        exact ⟨[], c :: cs, _, _, rfl, rfl, by simp, by simp, rfl, rfl,
          Tiles.touching_of_head hc hahead⟩

theorem ahead_inQuote {s : Splitting} {start : Mark} {taken : List Char}
    (hm : s.mode = .quote start taken) {c : Char} (hc : c ≠ '\n') {cs : List Char}
    {ls : List Lexeme} (h : (s.read c).Ahead cs ls) :
    ∃ new, (s.read c).found = new.reverse ++ s.found ∧ s.Ahead (c :: cs) (new ++ ls) := by
  by_cases hquote : c = '"'
  · subst hquote
    simp only [read, hm, if_true] at h ⊢
    refine ⟨[⟨String.ofList ('"' :: taken).reverse, start.spanTo (s.here.position + 1)⟩], rfl, ?_⟩
    simp only [Ahead, hm]
    exact ⟨[], cs, _, ls, rfl, rfl, by simp, by simp, by simp, rfl, rfl, h⟩
  · simp only [read, hm, if_neg hquote] at h ⊢
    rcases h with ⟨more, rest, l, ms, rfl, rfl, htext, hmore, hbreak, hstart, hstop, htiles⟩
    refine ⟨[], rfl, ?_⟩
    simp only [Ahead, hm]
    refine ⟨c :: more, rest, l, ms, rfl, rfl, by simpa using htext, ?_, ?_, hstart, ?_, htiles⟩
    · simpa [hmore] using Ne.symm hquote
    · simpa [hbreak] using Ne.symm hc
    · rw [hstop, advance_here, Mark.after_position, Text.byteLength_cons]
      rw [Nat.add_assoc _ c.utf8Size]

/-- One step: what is found, and what is ahead behind it, was ahead before it. -/
theorem ahead_step {s : Splitting} {c : Char} {cs : List Char}
    (hstep : s.step c cs = .ok (s.read c)) {ls : List Lexeme} (h : (s.read c).Ahead cs ls) :
    ∃ new, (s.read c).found = new.reverse ++ s.found ∧ s.Ahead (c :: cs) (new ++ ls) := by
  cases hm : s.mode with
  | between => exact ahead_between hm h
  | run start taken => exact ahead_inRun hm h
  | quote start taken =>
      have hc : c ≠ '\n' := by
        intro hbreak
        have hopen := ((step_spec hstep).2.1 hbreak).2
        simp [hm] at hopen
      exact ahead_inQuote hm hc h

theorem ahead_of_scan {s s' : Splitting} {cs : List Char} (h : s.scan cs = .ok s')
    (hend : s'.mode = .between) : ∃ ls, s'.found = ls.reverse ++ s.found ∧ s.Ahead cs ls := by
  induction cs generalizing s with
  | nil =>
      obtain rfl : s = s' := by simpa [scan] using h
      exact ⟨[], rfl, (ahead_iff_tiles hend).mpr (by simp [Tiles])⟩
  | cons c cs ih =>
      obtain ⟨hstep, hscan⟩ := scan_cons_spec h
      obtain ⟨ls, hfound, hahead⟩ := ih hscan
      obtain ⟨new, hnew, hbefore⟩ := ahead_step hstep hahead
      refine ⟨new ++ ls, ?_, hbefore⟩
      rw [hfound, hnew, List.reverse_append, List.append_assoc]

end Splitting

theorem splitChars_tiles {cs : List Char} {ls : List Lexeme} (h : splitChars cs = .ok ls) :
    Tiles 0 false cs ls := by
  rw [splitChars_eq_map] at h
  cases hscan : Splitting.initial.scan cs with
  | error e => simp [hscan, Except.map] at h
  | ok s =>
      obtain ⟨ms, hfound, hahead⟩ := Splitting.ahead_of_scan hscan (Splitting.scan_mode rfl hscan)
      obtain rfl : ms = ls := by
        rw [hscan] at h
        simpa [Except.map, hfound, Splitting.initial] using h
      exact (Splitting.ahead_iff_tiles rfl).mp hahead

/-- The lexemes of a text that can be split tile it, each is the slice of the text that its span
names and has exactly one shape, and they are the only slices that tile the text. -/
theorem split_tiles_uniquely (source : String) (ls : List Lexeme) (h : split source = .ok ls) :
    Tiles 0 false source.toList ls ∧
    (∀ l ∈ ls, Text.slice? l.span.start l.span.stop source.toList = some l.text.toList ∧
      ∃ shape : Shape, shape.Describes l.text.toList ∧
        ∀ other : Shape, other.Describes l.text.toList → other = shape) ∧
    ∀ ms, Tiles 0 false source.toList ms → ms.map Lexeme.slice = ls.map Lexeme.slice := by
  have htiles : Tiles 0 false source.toList ls := splitChars_tiles h
  refine ⟨htiles, ?_, fun ms hms => hms.slice_unique htiles⟩
  intro l hl
  obtain ⟨⟨shape, hshape⟩, before, after, heq, hstart, hstop⟩ := htiles.exists_of_mem hl
  refine ⟨?_, shape, hshape, fun other hother => hshape.unique hother⟩
  rw [hstart, hstop, heq, Nat.zero_add]
  exact Text.slice?_append before l.text.toList after

theorem split_tiles_uniquely_touching :
    split "é1+\"a b\"\tx;" = .ok [⟨"é1", ⟨0, 3, 1, 1⟩⟩, ⟨"+", ⟨3, 4, 1, 3⟩⟩,
      ⟨"\"a b\"", ⟨4, 9, 1, 4⟩⟩, ⟨"x", ⟨10, 11, 1, 10⟩⟩, ⟨";", ⟨11, 12, 1, 11⟩⟩] ∧
    Tiles 0 false "é1+\"a b\"\tx;".toList [⟨"é1", ⟨0, 3, 1, 1⟩⟩, ⟨"+", ⟨3, 4, 1, 3⟩⟩,
      ⟨"\"a b\"", ⟨4, 9, 1, 4⟩⟩, ⟨"x", ⟨10, 11, 1, 10⟩⟩, ⟨";", ⟨11, 12, 1, 11⟩⟩] :=
  ⟨rfl, (split_tiles_uniquely "é1+\"a b\"\tx;" _ rfl).1⟩

end StatementLexer
