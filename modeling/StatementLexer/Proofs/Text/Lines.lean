import StatementLexer.Source.Span
import StatementLexer.Text.Bytes

/-! # Lines and positions

The lines of a text are its pieces between line breaks. A line with a given index is found behind
the whole lines before it, and a mark that has read a text is determined by counting: bytes, line
breaks, and characters since the last of them.
-/

namespace StatementLexer

/-- All members of a list have a property, or there is a first that has not. -/
theorem forall_or_exists_first {α : Type} (p : α → Prop) (xs : List α) :
    (∀ x ∈ xs, p x) ∨
      ∃ before x after, xs = before ++ x :: after ∧ ¬ p x ∧ ∀ y ∈ before, p y := by
  induction xs with
  | nil => exact .inl (by simp)
  | cons x xs ih =>
      by_cases hx : p x
      · rcases ih with hall | ⟨before, y, after, rfl, hy, hbefore⟩
        · exact .inl (List.forall_mem_cons.mpr ⟨hx, hall⟩)
        · exact .inr ⟨x :: before, y, after, rfl, hy, List.forall_mem_cons.mpr ⟨hx, hbefore⟩⟩
      · exact .inr ⟨[], x, xs, rfl, hx, by simp⟩

/-- A text is cut in one way only into characters of a class and a rest that starts with none. -/
theorem append_inj_of_stop {p : Char → Bool} {xs ys us vs : List Char}
    (hxs : ∀ c ∈ xs, p c = true) (hys : ∀ c, ys.head? = some c → p c = false)
    (hus : ∀ c ∈ us, p c = true) (hvs : ∀ c, vs.head? = some c → p c = false)
    (h : xs ++ ys = us ++ vs) : xs = us ∧ ys = vs := by
  induction xs generalizing us with
  | nil =>
      cases us with
      | nil => exact ⟨rfl, h⟩
      | cons u us =>
          have hu := hus u List.mem_cons_self
          rw [hys u (by rw [← List.nil_append ys, h]; rfl)] at hu
          exact absurd hu Bool.false_ne_true
  | cons x xs ih =>
      cases us with
      | nil =>
          have hx := hxs x List.mem_cons_self
          rw [hvs x (by rw [← List.nil_append vs, ← h]; rfl)] at hx
          exact absurd hx Bool.false_ne_true
      | cons u us =>
          obtain ⟨rfl, htail⟩ := List.cons.inj h
          obtain ⟨rfl, rfl⟩ := ih (fun c hc => hxs c (List.mem_cons_of_mem x hc))
            (fun c hc => hus c (List.mem_cons_of_mem x hc)) htail
          exact ⟨rfl, rfl⟩

/-- A text is cut in one way only at the first place of a character. -/
theorem append_cons_inj {c : Char} {xs ys us vs : List Char} (hxs : c ∉ xs) (hus : c ∉ us)
    (h : xs ++ c :: ys = us ++ c :: vs) : xs = us ∧ ys = vs := by
  have hother : ∀ {ws : List Char}, c ∉ ws → ∀ d ∈ ws, (d != c) = true := by
    intro ws hws d hd
    rw [bne_iff_ne]
    rintro rfl
    exact hws hd
  obtain ⟨hfirst, hrest⟩ :=
    append_inj_of_stop (hother hxs) (by simp) (hother hus) (by simp) h
  exact ⟨hfirst, (List.cons.inj hrest).2⟩

namespace Text

/-- The pieces of a text between its line breaks. -/
def lines (cs : List Char) : List (List Char) :=
  cs.splitOn '\n'

/-- Whole lines: each with the line break behind it. -/
def broken (ls : List (List Char)) : List Char :=
  ls.flatMap (· ++ ['\n'])

/-- The byte offset at which the line with index `i` starts. -/
def lineStart (cs : List Char) (i : Nat) : Nat :=
  byteLength (broken ((lines cs).take i))

@[simp] theorem utf8Size_break : '\n'.utf8Size = 1 := rfl

theorem byteLength_pos {cs : List Char} (h : cs ≠ []) : 0 < byteLength cs := by
  cases cs with
  | nil => exact absurd rfl h
  | cons c cs =>
      have := c.utf8Size_pos
      rw [byteLength_cons]
      omega

@[simp] theorem broken_nil : broken [] = [] := rfl

@[simp] theorem broken_cons (l : List Char) (ls : List (List Char)) :
    broken (l :: ls) = l ++ '\n' :: broken ls := by
  simp [broken]

theorem broken_append (ls ms : List (List Char)) : broken (ls ++ ms) = broken ls ++ broken ms := by
  simp [broken]

theorem lines_append_break (xs ys : List Char) :
    lines (xs ++ '\n' :: ys) = lines xs ++ lines ys :=
  List.splitOn_append_cons_self xs ys

theorem lines_of_not_mem {cs : List Char} (h : '\n' ∉ cs) : lines cs = [cs] :=
  List.splitOn_eq_singleton h

/-- A text is one line, or a line and a line break before another text. -/
theorem line_induction {motive : List Char → Prop} (last : ∀ l, '\n' ∉ l → motive l)
    (more : ∀ l rest, '\n' ∉ l → motive rest → motive (l ++ '\n' :: rest)) (cs : List Char) :
    motive cs := by
  by_cases h : '\n' ∈ cs
  · obtain ⟨l, rest, heq, hl⟩ := List.eq_append_cons_of_mem h
    exact heq ▸ more l rest hl (line_induction last more rest)
  · exact last cs h
termination_by cs.length
decreasing_by
  subst heq
  simp only [List.length_append, List.length_cons]
  omega

theorem length_lines (cs : List Char) : (lines cs).length = 1 + cs.count '\n' := by
  induction cs using line_induction with
  | last l hl => rw [lines_of_not_mem hl, List.count_eq_zero.mpr hl, List.length_singleton]
  | more l rest hl ih =>
      rw [lines_append_break, lines_of_not_mem hl, List.length_append, List.length_singleton, ih,
        List.count_append, List.count_eq_zero.mpr hl, List.count_cons_self]
      omega

theorem not_mem_of_mem_lines {cs l : List Char} (h : l ∈ lines cs) : '\n' ∉ l := by
  induction cs using line_induction with
  | last m hm =>
      rw [lines_of_not_mem hm, List.mem_singleton] at h
      exact h ▸ hm
  | more m rest hm ih =>
      rw [lines_append_break, lines_of_not_mem hm, List.singleton_append, List.mem_cons] at h
      rcases h with rfl | h
      · exact hm
      · exact ih h

def lastLine (cs : List Char) : List Char :=
  (lines cs).getLastD []

theorem eq_append_lastLine (cs : List Char) :
    '\n' ∉ lastLine cs ∧
      (cs = lastLine cs ∨ ∃ before, cs = before ++ '\n' :: lastLine cs) := by
  unfold lastLine
  induction cs using line_induction with
  | last l hl =>
      rw [lines_of_not_mem hl]
      exact ⟨hl, .inl rfl⟩
  | more l rest hl ih =>
      have hlast : (lines (l ++ '\n' :: rest)).getLastD [] = (lines rest).getLastD [] := by
        obtain ⟨m, ms, hms⟩ := List.exists_cons_of_ne_nil (List.splitOn_ne_nil '\n' rest)
        rw [lines_append_break, lines_of_not_mem hl, lines, hms]
        rfl
      rw [hlast]
      refine ⟨ih.1, .inr ?_⟩
      rcases ih.2 with hrest | ⟨before, hrest⟩
      · exact ⟨l, by rw [← hrest]⟩
      · exact ⟨l ++ '\n' :: before, by rw [List.append_assoc, List.cons_append, ← hrest]⟩

theorem length_lastLine_le (cs : List Char) : (lastLine cs).length ≤ cs.length := by
  obtain ⟨-, hall | ⟨before, hall⟩⟩ := eq_append_lastLine cs
  · exact Nat.le_of_eq (congrArg List.length hall).symm
  · have hlength := congrArg List.length hall
    rw [List.length_append, List.length_cons] at hlength
    omega

/-- The line with index `i` stands behind the whole lines before it, and a line break or nothing
follows it. -/
theorem eq_of_getElem?_lines {cs l : List Char} {i : Nat} (h : (lines cs)[i]? = some l) :
    ∃ rest, cs = broken ((lines cs).take i) ++ (l ++ rest) ∧
      ∀ c, rest.head? = some c → c = '\n' := by
  induction cs using line_induction generalizing i with
  | last m hm =>
      rw [lines_of_not_mem hm] at h ⊢
      cases i with
      | zero =>
          simp only [List.getElem?_cons_zero, Option.some.injEq] at h
          exact ⟨[], by simp [h]⟩
      | succ i => simp at h
  | more m rest hm ih =>
      rw [lines_append_break, lines_of_not_mem hm, List.singleton_append] at h ⊢
      cases i with
      | zero =>
          simp only [List.getElem?_cons_zero, Option.some.injEq] at h
          exact ⟨'\n' :: rest, by simp [h]⟩
      | succ i =>
          obtain ⟨behind, heq, hend⟩ := ih h
          exact ⟨behind, by simpa using heq, hend⟩

end Text

namespace Mark

def behind (m : Mark) (cs : List Char) : Mark :=
  cs.foldl after m

@[simp] theorem behind_nil (m : Mark) : m.behind [] = m := rfl

@[simp] theorem behind_cons (m : Mark) (c : Char) (cs : List Char) :
    m.behind (c :: cs) = (m.after c).behind cs := rfl

theorem behind_append (m : Mark) (xs ys : List Char) :
    m.behind (xs ++ ys) = (m.behind xs).behind ys :=
  List.foldl_append

@[simp] theorem behind_position (m : Mark) (cs : List Char) :
    (m.behind cs).position = m.position + Text.byteLength cs := by
  induction cs generalizing m with
  | nil => rfl
  | cons c cs ih => simp [ih, Nat.add_assoc]

theorem after_break (m : Mark) : m.after '\n' = ⟨m.position + 1, m.line + 1, 1⟩ := rfl

theorem after_of_ne_break (m : Mark) {c : Char} (h : c ≠ '\n') :
    m.after c = ⟨m.position + c.utf8Size, m.line, m.column + 1⟩ := by
  simp [after, h]

theorem behind_of_not_mem (m : Mark) {cs : List Char} (h : '\n' ∉ cs) :
    m.behind cs = ⟨m.position + Text.byteLength cs, m.line, m.column + cs.length⟩ := by
  induction cs generalizing m with
  | nil => rfl
  | cons c cs ih =>
      have hc : c ≠ '\n' := (List.ne_of_not_mem_cons h).symm
      have hcs : '\n' ∉ cs := List.not_mem_of_not_mem_cons h
      rw [behind_cons, ih _ hcs, after_of_ne_break m hc]
      simp [Nat.add_assoc, Nat.add_comm 1]

theorem behind_line (m : Mark) (cs : List Char) :
    (m.behind cs).line + 1 = m.line + (Text.lines cs).length := by
  induction cs using Text.line_induction generalizing m with
  | last l hl => rw [behind_of_not_mem m hl, Text.lines_of_not_mem hl, List.length_singleton]
  | more l rest hl ih =>
      rw [behind_append, behind_cons, ih, behind_of_not_mem m hl, after_break]
      rw [Text.lines_append_break, Text.lines_of_not_mem hl, List.length_append]
      simp only [List.length_singleton]
      omega

/-- Whole lines lead from the start of a line to the start of a line. -/
theorem behind_broken {m : Mark} (hm : m.column = 1) {ls : List (List Char)}
    (h : ∀ l ∈ ls, '\n' ∉ l) :
    m.behind (Text.broken ls) =
      ⟨m.position + Text.byteLength (Text.broken ls), m.line + ls.length, 1⟩ := by
  induction ls generalizing m with
  | nil => cases m; cases hm; rfl
  | cons l ls ih =>
      have hl : '\n' ∉ l := h l List.mem_cons_self
      have hls : ∀ k ∈ ls, '\n' ∉ k := fun k hk => h k (List.mem_cons_of_mem l hk)
      rw [Text.broken_cons, behind_append, behind_cons, behind_of_not_mem m hl, after_break]
      rw [ih rfl hls]
      simp [Text.byteLength_append]
      omega

end Mark

end StatementLexer
