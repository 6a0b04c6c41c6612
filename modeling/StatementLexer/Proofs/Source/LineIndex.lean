import StatementLexer.Proofs.Text.Lines
import StatementLexer.Source.File

/-! # The line index of a file

The index of a file holds the byte offsets at which its lines start, and a line is cut out between
two of them. So a file has one entry for each piece of its text between line breaks, and the line
that it gives is that piece without the carriage returns at its end.
-/

namespace StatementLexer

namespace Text

theorem lines_ne_nil (cs : List Char) : lines cs ≠ [] :=
  List.splitOn_ne_nil '\n' cs

theorem lines_broken_append {ls : List (List Char)} (h : ∀ l ∈ ls, '\n' ∉ l) (cs : List Char) :
    lines (broken ls ++ cs) = ls ++ lines cs := by
  induction ls with
  | nil => rfl
  | cons l ls ih =>
      have hl : '\n' ∉ l := h l List.mem_cons_self
      have hls := ih fun k hk => h k (List.mem_cons_of_mem l hk)
      rw [broken_cons, List.append_assoc, List.cons_append, lines_append_break, lines_of_not_mem hl,
        hls]
      rfl

/-- A line is followed by a line break and the next line, or it is the last and nothing follows. -/
theorem line_cases {cs l : List Char} {i : Nat} (h : (lines cs)[i]? = some l) :
    (∃ rest, cs = broken ((lines cs).take i) ++ (l ++ '\n' :: rest) ∧ i + 1 < (lines cs).length) ∨
      cs = broken ((lines cs).take i) ++ l ∧ i + 1 = (lines cs).length := by
  obtain ⟨rest, heq, hrest⟩ := eq_of_getElem?_lines h
  have hline : '\n' ∉ l := not_mem_of_mem_lines (List.mem_of_getElem? h)
  have hbefore : ∀ k ∈ (lines cs).take i, '\n' ∉ k := fun k hk =>
    not_mem_of_mem_lines (List.mem_of_mem_take hk)
  have hlines : lines cs = (lines cs).take i ++ lines (l ++ rest) := by
    rw [← lines_broken_append hbefore, ← heq]
  have hlen : ((lines cs).take i).length = i := by
    obtain ⟨hlt, -⟩ := List.getElem?_eq_some_iff.mp h
    rw [List.length_take]
    omega
  have hcount : (lines cs).length = i + (lines (l ++ rest)).length := by
    rw [congrArg List.length hlines, List.length_append, hlen]
  cases rest with
  | nil =>
      rw [List.append_nil, lines_of_not_mem hline, List.length_singleton] at hcount
      exact .inr ⟨by simpa using heq, hcount.symm⟩
  | cons c rest =>
      obtain rfl : c = '\n' := hrest c rfl
      have hmore : 0 < (lines rest).length := List.length_pos_iff.mpr (lines_ne_nil rest)
      rw [lines_append_break, lines_of_not_mem hline, List.length_append,
        List.length_singleton] at hcount
      exact .inl ⟨rest, heq, by omega⟩

@[simp] theorem lineStart_zero (cs : List Char) : lineStart cs 0 = 0 := by
  simp [lineStart]

theorem lineStart_succ {cs l : List Char} {i : Nat} (h : (lines cs)[i]? = some l) :
    lineStart cs (i + 1) = lineStart cs i + byteLength l + 1 := by
  have htake : (lines cs).take (i + 1) = (lines cs).take i ++ [l] := by
    rw [List.take_add_one, h]
    rfl
  unfold lineStart
  rw [htake, broken_append, broken_cons, broken_nil, byteLength_append, byteLength_append]
  simp [Nat.add_assoc]

/-- Behind a first line all lines start later by the length of that line. -/
theorem lineStart_append_break {l : List Char} (hl : '\n' ∉ l) (rest : List Char) (i : Nat) :
    lineStart (l ++ '\n' :: rest) (i + 1) = byteLength l + 1 + lineStart rest i := by
  unfold lineStart
  rw [lines_append_break, lines_of_not_mem hl, List.singleton_append, List.take_succ_cons,
    broken_cons, byteLength_append, byteLength_cons, utf8Size_break]
  omega

end Text

/-! ## The offsets behind line breaks -/

theorem offsetsBehindBreaks_of_not_mem (n : Nat) {cs : List Char} (h : '\n' ∉ cs) :
    offsetsBehindBreaks n cs = [] := by
  induction cs generalizing n with
  | nil => rfl
  | cons c cs ih =>
      have hc : c ≠ '\n' := (List.ne_of_not_mem_cons h).symm
      simp [offsetsBehindBreaks, hc, ih _ (List.not_mem_of_not_mem_cons h)]

theorem offsetsBehindBreaks_append_break (n : Nat) {l : List Char} (h : '\n' ∉ l)
    (rest : List Char) :
    offsetsBehindBreaks n (l ++ '\n' :: rest) =
      (n + (Text.byteLength l + 1)) :: offsetsBehindBreaks (n + (Text.byteLength l + 1)) rest := by
  induction l generalizing n with
  | nil => simp [offsetsBehindBreaks]
  | cons c l ih =>
      have hc : c ≠ '\n' := (List.ne_of_not_mem_cons h).symm
      simp [offsetsBehindBreaks, hc, ih _ (List.not_mem_of_not_mem_cons h), Nat.add_assoc]

/-- The offset behind the line break with index `i` is where the line with the next index starts. -/
theorem getElem?_offsetsBehindBreaks (n : Nat) (cs : List Char) (i : Nat) :
    (offsetsBehindBreaks n cs)[i]? =
      if i + 1 < (Text.lines cs).length then some (n + Text.lineStart cs (i + 1)) else none := by
  induction cs using Text.line_induction generalizing n i with
  | last l hl =>
      rw [offsetsBehindBreaks_of_not_mem n hl, Text.lines_of_not_mem hl]
      simp
  | more l rest hl ih =>
      have hlen : (Text.lines (l ++ '\n' :: rest)).length = (Text.lines rest).length + 1 := by
        rw [Text.lines_append_break, Text.lines_of_not_mem hl]
        simp [Nat.add_comm]
      rw [offsetsBehindBreaks_append_break n hl, hlen, Text.lineStart_append_break hl]
      cases i with
      | zero =>
          have hmore : 0 < (Text.lines rest).length :=
            List.length_pos_iff.mpr (Text.lines_ne_nil rest)
          simp [hmore]
      | succ i =>
          rw [List.getElem?_cons_succ, ih, Nat.add_assoc n]
          simp only [Nat.add_lt_add_iff_right]

namespace SourceFile

/-- Without a line break the carriage returns at the end are trimmed alone. -/
theorem trimBreaks_append_break (cs : List Char) : trimBreaks (cs ++ ['\n']) = trimBreaks cs := by
  simp [trimBreaks]

theorem trimBreaks_append_return (cs : List Char) : trimBreaks (cs ++ ['\r']) = trimBreaks cs := by
  simp [trimBreaks]

theorem trimBreaks_concat {c : Char} (cs : List Char) (hbreak : c ≠ '\n') (hreturn : c ≠ '\r') :
    trimBreaks (cs ++ [c]) = cs ++ [c] := by
  simp [trimBreaks, hbreak, hreturn]

theorem length_trimBreaks_le (cs : List Char) : (trimBreaks cs).length ≤ cs.length := by
  have h := (List.dropWhile_suffix (fun c => c == '\n' || c == '\r') (l := cs.reverse)).length_le
  simpa [trimBreaks] using h

variable (f : SourceFile)

theorem getElem?_lineStarts (i : Nat) :
    f.lineStarts[i]? =
      if i < (Text.lines f.content.toList).length then some (Text.lineStart f.content.toList i)
      else none := by
  cases i with
  | zero =>
      have hpos := List.length_pos_iff.mpr (Text.lines_ne_nil f.content.toList)
      simp [lineStarts, hpos]
  | succ i => simp [lineStarts, getElem?_offsetsBehindBreaks]

variable {f}

theorem range_eq_ok {before piece after : List Char}
    (h : f.content.toList = before ++ (piece ++ after)) :
    f.range (Text.byteLength before) (Text.byteLength before + Text.byteLength piece) =
      .ok (String.ofList piece) := by
  have hcut := Text.slice?_append before piece after
  rw [List.append_assoc, ← h] at hcut
  unfold range
  rw [if_neg (by omega), hcut]

/-- A file gives its lines by number, without the carriage returns at their ends. -/
theorem line_of_getElem? {i : Nat} {l : List Char}
    (h : (Text.lines f.content.toList)[i]? = some l) :
    f.line (i + 1) = .ok (String.ofList (trimBreaks l)) := by
  obtain ⟨hlt, -⟩ := List.getElem?_eq_some_iff.mp h
  have hstart : f.lineStarts[i]? = some (Text.lineStart f.content.toList i) := by
    rw [getElem?_lineStarts, if_pos hlt]
  unfold line
  simp only [hstart]
  rcases Text.line_cases h with ⟨rest, heq, hmore⟩ | ⟨heq, hlast⟩
  · have hstop : f.lineStarts[i + 1]? =
        some (Text.lineStart f.content.toList i + Text.byteLength (l ++ ['\n'])) := by
      rw [getElem?_lineStarts, if_pos hmore, Text.lineStart_succ h, Text.byteLength_append]
      rfl
    have hcontent : f.content.toList =
        Text.broken ((Text.lines f.content.toList).take i) ++ ((l ++ ['\n']) ++ rest) := by
      simpa using heq
    have hrange := range_eq_ok hcontent
    rw [hstop, Option.getD_some]
    unfold Text.lineStart
    rw [hrange]
    simp [Except.map, trimBreaks_append_break]
  · have hstop : f.lineStarts[i + 1]? = none := by
      rw [getElem?_lineStarts, if_neg (by omega)]
    have hlength : f.length = Text.lineStart f.content.toList i + Text.byteLength l := by
      unfold length
      rw [congrArg Text.byteLength heq, Text.byteLength_append]
      rfl
    have hcontent : f.content.toList =
        Text.broken ((Text.lines f.content.toList).take i) ++ (l ++ []) := by
      simpa using heq
    have hrange := range_eq_ok hcontent
    rw [hstop, Option.getD_none, hlength]
    unfold Text.lineStart
    rw [hrange]
    simp [Except.map]

end SourceFile

end StatementLexer
