import Mathlib.Data.List.Induction
import StatementLexer.Proofs.Lexeme.Scan
import StatementLexer.Token.Reader

/-! # The first line that is no statement

A text can be split exactly if it is empty or each of its lines is a statement: the terminator is
its last character and its double quotes pair up. Otherwise the first line that is none decides the
fault, whatever follows. Main statement: `ofSource_first_fault`.
-/

namespace StatementLexer

/-- A line that ends with the terminator and whose double quotes pair up. -/
def IsStatement (l : List Char) : Prop :=
  l.getLast? = some terminator ∧ l.count '"' % 2 = 0

instance (l : List Char) : Decidable (IsStatement l) :=
  inferInstanceAs (Decidable (_ ∧ _))

/-- The fault of a line that is no statement, `i` being its index and `start` its byte offset. -/
inductive LineFault (i start : Nat) : List Char → LexError → Prop where
  | emptyFirst : i = 0 → LineFault i start [] (.missingTerminator ⟨0, 1, 1, 1⟩)
  | empty : 0 < i → LineFault i start [] (.missingTerminator ⟨start, start, i + 1, 1⟩)
  | unended (before : List Char) (last : Char) : last ≠ terminator →
      LineFault i start (before ++ [last])
        (.missingTerminator ⟨start + Text.byteLength before,
          start + Text.byteLength (before ++ [last]), i + 1, (before ++ [last]).length⟩)
  | unclosed (before inside : List Char) : '"' ∉ inside →
      (before ++ '"' :: inside).getLast? = some terminator →
      (before ++ '"' :: inside).count '"' % 2 = 1 →
      LineFault i start (before ++ '"' :: inside)
        (.unterminatedQuote ⟨start + Text.byteLength before,
          start + Text.byteLength (before ++ '"' :: inside), i + 1, before.length + 1⟩)

theorem append_quote_inj {xs ys us vs : List Char} (hys : '"' ∉ ys) (hvs : '"' ∉ vs)
    (h : xs ++ '"' :: ys = us ++ '"' :: vs) : xs = us ∧ ys = vs := by
  rcases List.append_eq_append_iff.mp h with ⟨as, rfl, heq⟩ | ⟨as, rfl, heq⟩
  · cases as with
    | nil => simpa using heq
    | cons a as =>
        obtain ⟨-, rfl⟩ := List.cons.inj heq
        exact absurd (by simp) hys
  · cases as with
    | nil => simpa [eq_comm] using heq
    | cons a as =>
        obtain ⟨-, rfl⟩ := List.cons.inj heq
        exact absurd (by simp) hvs

theorem LineFault.unique {i start : Nat} {l l' : List Char} {e e' : LexError} (hl : l = l')
    (h : LineFault i start l e) (h' : LineFault i start l' e') : e = e' := by
  cases h with
  | emptyFirst hi =>
      cases h' with
      | emptyFirst _ => rfl
      | empty hi' => omega
      | unended => simp at hl
      | unclosed => simp at hl
  | empty hi =>
      cases h' with
      | emptyFirst hi' => omega
      | empty _ => rfl
      | unended => simp at hl
      | unclosed => simp at hl
  | unended before last hne =>
      cases h' with
      | emptyFirst => simp at hl
      | empty => simp at hl
      | unended before' last' _ =>
          obtain ⟨rfl, hlast⟩ := List.append_inj' hl rfl
          cases hlast
          rfl
      | unclosed _ _ _ hlast =>
          rw [← hl] at hlast
          exact absurd (by simpa using hlast) hne
  | unclosed before inside hin hlast =>
      cases h' with
      | emptyFirst => simp at hl
      | empty => simp at hl
      | unended before' last' hne =>
          rw [hl] at hlast
          exact absurd (by simpa using hlast) hne
      | unclosed before' inside' hin' =>
          obtain ⟨rfl, rfl⟩ := append_quote_inj hin hin' hl
          rfl

theorem count_append_terminator (cs : List Char) :
    (cs ++ [terminator]).count '"' = cs.count '"' := by
  simp [terminator]

theorem IsStatement.ne_nil {l : List Char} (h : IsStatement l) : l ≠ [] := by
  intro hl
  subst hl
  simp [IsStatement] at h

namespace Splitting

/-! ## Strings within a line -/

/-- Within a line a string is open behind an odd number of double quotes, and it is the last of them
that opened it. -/
theorem foldl_read_opening {s : Splitting} (h : s.mode.opening? = none) (cs : List Char) :
    ((cs.foldl read s).mode.opening? = none ∧ cs.count '"' % 2 = 0) ∨
      ∃ before inside, cs = before ++ '"' :: inside ∧ '"' ∉ inside ∧ cs.count '"' % 2 = 1 ∧
        (cs.foldl read s).mode.opening? = some (s.here.behind before) := by
  induction cs using List.reverseRecOn with
  | nil => exact .inl ⟨h, rfl⟩
  | append_singleton cs c ih =>
      rw [List.foldl_append, List.foldl_cons, List.foldl_nil, read_opening, foldl_read_here]
      by_cases hc : c = '"'
      · subst hc
        rw [if_pos rfl, List.count_append, List.count_singleton_self]
        rcases ih with ⟨hopen, heven⟩ | ⟨before, inside, -, -, hodd, hopen⟩
        · exact .inr ⟨cs, [], rfl, by simp, by omega, by rw [if_pos hopen]⟩
        · exact .inl ⟨by rw [if_neg (by simp [hopen])], by omega⟩
      · have hcount : (cs ++ [c]).count '"' = cs.count '"' := by
          simp [List.count_append, hc]
        rw [if_neg hc, hcount]
        rcases ih with ⟨hopen, heven⟩ | ⟨before, inside, rfl, hin, hodd, hopen⟩
        · exact .inl ⟨hopen, heven⟩
        · refine .inr ⟨before, inside ++ [c], by simp, ?_, hodd, hopen⟩
          simpa [hin] using Ne.symm hc

/-! ## One line -/

theorem scan_unended (s : Splitting) {before rest : List Char} {last : Char}
    (hline : '\n' ∉ before ++ [last]) (hlast : last ≠ terminator) (hrest : endsLine rest = true) :
    s.scan (before ++ last :: rest) =
      .error (.missingTerminator ((s.here.behind before).spanOf last)) := by
  obtain ⟨hbefore, hne⟩ : '\n' ∉ before ∧ '\n' ≠ last := by simpa using hline
  rw [scan_inner s hbefore hne.symm, scan_cons_of_error (step_last_ne _ hrest hne.symm hlast)]
  rw [foldl_read_here]

theorem scan_unclosed {s : Splitting} (hs : s.mode.opening? = none) {l rest : List Char}
    (hline : '\n' ∉ l) (hlast : l.getLast? = some terminator) (hodd : l.count '"' % 2 = 1)
    (hrest : endsLine rest = true) :
    ∃ before inside, l = before ++ '"' :: inside ∧ '"' ∉ inside ∧
      s.scan (l ++ rest) = .error (.unterminatedQuote
        ((s.here.behind before).spanTo (s.here.position + Text.byteLength l))) := by
  obtain ⟨init, rfl⟩ := List.getLast?_eq_some_iff.mp hlast
  rw [count_append_terminator] at hodd
  rcases foldl_read_opening hs init with ⟨-, heven⟩ | ⟨before, inside, rfl, hin, -, hopen⟩
  · omega
  · have hinit : '\n' ∉ before ++ '"' :: inside := fun hmem =>
      hline (List.mem_append_left [terminator] hmem)
    refine ⟨before, inside ++ [terminator], by simp, by simp [hin, terminator], ?_⟩
    rw [List.append_assoc, List.singleton_append, scan_inner s hinit (by decide),
      scan_cons_of_error (step_last_open hrest hopen), foldl_read_here]
    rw [Mark.behind_position, Text.byteLength_append _ [terminator]]
    rfl

theorem scan_statement {s : Splitting} (hs : s.mode.opening? = none) {l rest : List Char}
    (hline : '\n' ∉ l) (hl : IsStatement l) (hrest : endsLine rest = true) :
    ∃ t : Splitting, s.scan (l ++ rest) = t.scan rest ∧ t.mode = .between ∧
      t.here = s.here.behind l := by
  obtain ⟨init, rfl⟩ := List.getLast?_eq_some_iff.mp hl.1
  have heven := hl.2
  rw [count_append_terminator] at heven
  rcases foldl_read_opening hs init with ⟨hopen, -⟩ | ⟨before, inside, -, -, hodd, -⟩
  · have hinit : '\n' ∉ init := fun hmem => hline (List.mem_append_left [terminator] hmem)
    refine ⟨(init.foldl read s).read terminator, ?_, read_terminator_mode hopen, ?_⟩
    · rw [List.append_assoc, List.singleton_append, scan_inner s hinit (by decide),
        scan_cons_of_ok (step_last_closed hrest hopen)]
    · rw [read_here, foldl_read_here, Mark.behind_append]
      rfl
  · omega

/-! ## Line after line -/

/-- Behind a statement a line break leads to the next line, unless that line is empty. -/
theorem scan_statement_break {s : Splitting} (hs : s.mode = .between) {l rest : List Char}
    (hline : '\n' ∉ l) (hl : IsStatement l) (hrest : endsLine rest = false) :
    ∃ t : Splitting, s.scan (l ++ '\n' :: rest) = t.scan rest ∧ t.mode = .between ∧
      t.here = s.here.behind (l ++ ['\n']) := by
  have hbreak : endsLine ('\n' :: rest) = true := rfl
  obtain ⟨t, hscan, hmode, hhere⟩ := scan_statement (congrArg Mode.opening? hs) hline hl hbreak
  have hpos : 0 < t.here.position := by
    have := Text.byteLength_pos hl.ne_nil
    rw [hhere, Mark.behind_position]
    omega
  refine ⟨t.advance '\n', ?_, hmode, ?_⟩
  · rw [hscan, scan_cons_of_ok (step_break hrest hmode hpos)]
  · rw [advance_here, hhere, Mark.behind_append]
    rfl

theorem scan_statements {s : Splitting} (hs : s.mode = .between) {ls : List (List Char)}
    (hls : ∀ l ∈ ls, '\n' ∉ l ∧ IsStatement l) {rest : List Char} (hrest : endsLine rest = false) :
    ∃ t : Splitting, s.scan (Text.broken ls ++ rest) = t.scan rest ∧ t.mode = .between ∧
      t.here = s.here.behind (Text.broken ls) := by
  induction ls generalizing s with
  | nil => exact ⟨s, rfl, hs, rfl⟩
  | cons l ls ih =>
      obtain ⟨hline, hl⟩ := hls l List.mem_cons_self
      have hnext : endsLine (Text.broken ls ++ rest) = false := by
        cases ls with
        | nil => exact hrest
        | cons m ls =>
            obtain ⟨hm, hstatement⟩ := hls m (by simp)
            rw [Text.broken_cons, List.append_assoc]
            exact endsLine_append hstatement.ne_nil hm _
      obtain ⟨t, hscan, hmode, hhere⟩ := scan_statement_break hs hline hl hnext
      obtain ⟨u, hscan', hmode', hhere'⟩ := ih hmode fun k hk => hls k (List.mem_cons_of_mem l hk)
      refine ⟨u, ?_, hmode', ?_⟩
      · rw [Text.broken_cons, List.append_assoc, List.cons_append, hscan, hscan']
      · rw [hhere', hhere, ← Mark.behind_append, Text.broken_cons]
        simp

theorem scan_empty_line {ls : List (List Char)} (hls : ∀ l ∈ ls, '\n' ∉ l ∧ IsStatement l)
    {rest : List Char} (hrest : endsLine rest = true) (hne : Text.broken ls ++ rest ≠ []) :
    ∃ e, initial.scan (Text.broken ls ++ rest) = .error e ∧
      LineFault ls.length (Text.byteLength (Text.broken ls)) [] e := by
  rcases List.eq_nil_or_concat ls with rfl | ⟨ls, l, rfl⟩
  · cases rest with
    | nil => exact absurd rfl hne
    | cons c rest =>
        obtain rfl : c = '\n' := by simpa using hrest
        exact ⟨_, scan_cons_of_error (step_break_first rest rfl), .emptyFirst rfl⟩
  · obtain ⟨hline, hl⟩ := hls l (by simp)
    have hinit : ∀ k ∈ ls, '\n' ∉ k ∧ IsStatement k := fun k hk => hls k (by simp [hk])
    have hbreak : endsLine ('\n' :: rest) = true := rfl
    obtain ⟨t, hscan, hmode, hhere⟩ := scan_statements (s := initial) rfl hinit
      (endsLine_append hl.ne_nil hline ('\n' :: rest))
    obtain ⟨u, hscan', -, hhere'⟩ := scan_statement (congrArg Mode.opening? hmode) hline hl hbreak
    have hu : u.here = ⟨Text.byteLength (Text.broken ls) + Text.byteLength l, ls.length + 1,
        l.length + 1⟩ := by
      rw [hhere', hhere, Mark.behind_broken rfl fun k hk => (hinit k hk).1,
        Mark.behind_of_not_mem _ hline]
      simp [initial, Mark.origin, Nat.add_comm]
    have hpos : 0 < u.here.position := by
      have := Text.byteLength_pos hl.ne_nil
      rw [hu]
      exact Nat.add_pos_right _ this
    refine ⟨_, ?_, .empty (by simp)⟩
    rw [List.concat_eq_append, Text.broken_append, Text.broken_cons, Text.broken_nil,
      List.append_assoc, List.append_assoc, List.singleton_append, hscan, hscan',
      scan_cons_of_error (step_break_empty u hrest hpos), hu]
    simp [Text.byteLength_append, Nat.add_assoc]

/-- The first line that is no statement ends the pass with its own fault. -/
theorem scan_fault {ls : List (List Char)} (hls : ∀ l ∈ ls, '\n' ∉ l ∧ IsStatement l)
    {l rest : List Char} (hline : '\n' ∉ l) (hl : ¬ IsStatement l) (hrest : endsLine rest = true)
    (hne : Text.broken ls ++ (l ++ rest) ≠ []) :
    ∃ e, initial.scan (Text.broken ls ++ (l ++ rest)) = .error e ∧
      LineFault ls.length (Text.byteLength (Text.broken ls)) l e := by
  by_cases hempty : l = []
  · subst hempty
    exact scan_empty_line hls hrest hne
  · obtain ⟨t, hscan, hmode, hhere⟩ := scan_statements (s := initial) rfl hls
      (endsLine_append hempty hline rest)
    have hstart : t.here = ⟨Text.byteLength (Text.broken ls), ls.length + 1, 1⟩ := by
      rw [hhere, Mark.behind_broken rfl fun k hk => (hls k hk).1]
      simp [initial, Mark.origin, Nat.add_comm]
    by_cases hlast : l.getLast? = some terminator
    · have hodd : l.count '"' % 2 = 1 := by
        by_contra heven
        exact hl ⟨hlast, by omega⟩
      obtain ⟨before, inside, rfl, hin, hfault⟩ :=
        scan_unclosed (congrArg Mode.opening? hmode) hline hlast hodd hrest
      have hbefore : '\n' ∉ before := fun hmem => hline (List.mem_append_left _ hmem)
      refine ⟨_, hscan.trans hfault, ?_⟩
      rw [hstart, Mark.behind_of_not_mem _ hbefore, Nat.add_comm 1 before.length]
      exact .unclosed before inside hin hlast hodd
    · obtain ⟨before, last, rfl⟩ : ∃ before last, l = before ++ [last] := by
        simpa using (List.eq_nil_or_concat l).resolve_left hempty
      have hne : last ≠ terminator := by simpa using hlast
      have hbefore : '\n' ∉ before := fun hmem => hline (List.mem_append_left _ hmem)
      refine ⟨_, ?_, .unended before last hne⟩
      rw [hscan, List.append_assoc, List.singleton_append, scan_unended t hline hne hrest, hstart,
        Mark.behind_of_not_mem _ hbefore]
      simp [Mark.spanOf, Mark.spanTo, Text.byteLength_append, Nat.add_assoc, Nat.add_comm 1]

theorem endsLine_of_statements {cs : List Char} (h : ∀ l ∈ Text.lines cs, IsStatement l) :
    endsLine cs = false := by
  cases cs with
  | nil => exact absurd rfl (h [] (by simp [Text.lines])).ne_nil
  | cons c cs =>
      rw [endsLine_cons, beq_eq_false_iff_ne]
      intro hc
      subst hc
      have hempty : [] ∈ Text.lines ('\n' :: cs) := by
        rw [← List.nil_append ('\n' :: cs), Text.lines_append_break]
        simp [Text.lines]
      exact absurd rfl (h [] hempty).ne_nil

theorem scan_of_statements {s : Splitting} (hs : s.mode = .between) {cs : List Char}
    (h : ∀ l ∈ Text.lines cs, IsStatement l) : ∃ t, s.scan cs = .ok t := by
  induction cs using Text.line_induction generalizing s with
  | last l hl =>
      rw [Text.lines_of_not_mem hl] at h
      obtain ⟨t, hscan, -, -⟩ := scan_statement (congrArg Mode.opening? hs) hl
        (h l List.mem_cons_self) endsLine_nil
      exact ⟨t, by rw [← List.append_nil l, hscan]; rfl⟩
  | more l rest hl ih =>
      rw [Text.lines_append_break, Text.lines_of_not_mem hl, List.singleton_append] at h
      have hrest : ∀ k ∈ Text.lines rest, IsStatement k := by
        intro k hk
        exact h k (List.mem_cons_of_mem l hk)
      obtain ⟨t, hscan, hmode, -⟩ := scan_statement_break hs hl (h l List.mem_cons_self)
        (endsLine_of_statements hrest)
      rw [hscan]
      exact ih hmode hrest

end Splitting

/-! ## The whole text -/

theorem splitChars_nil : splitChars [] = .ok [] := rfl

theorem splitChars_of_statements {cs : List Char} (h : ∀ l ∈ Text.lines cs, IsStatement l) :
    ∃ ls, splitChars cs = .ok ls := by
  obtain ⟨t, hscan⟩ := Splitting.scan_of_statements (s := Splitting.initial) rfl h
  exact ⟨_, by rw [splitChars_eq_map, hscan]; rfl⟩

theorem splitChars_fault {cs l : List Char} {i : Nat} (hne : cs ≠ [])
    (hi : (Text.lines cs)[i]? = some l) (hl : ¬ IsStatement l)
    (hbefore : ∀ k ∈ (Text.lines cs).take i, IsStatement k) :
    ∃ e, splitChars cs = .error e ∧ LineFault i (Text.lineStart cs i) l e := by
  obtain ⟨rest, heq, hrest⟩ := Text.eq_of_getElem?_lines hi
  have hline : ∀ k ∈ Text.lines cs, '\n' ∉ k := fun k hk => Text.not_mem_of_mem_lines hk
  have hlen : ((Text.lines cs).take i).length = i := by
    obtain ⟨hlt, -⟩ := List.getElem?_eq_some_iff.mp hi
    rw [List.length_take]
    omega
  obtain ⟨e, hscan, hfault⟩ := Splitting.scan_fault
    (fun k hk => ⟨hline k (List.mem_of_mem_take hk), hbefore k hk⟩)
    (hline l (List.mem_of_getElem? hi)) hl (Splitting.endsLine_iff.mpr hrest) (heq ▸ hne)
  rw [hlen] at hfault
  refine ⟨e, ?_, hfault⟩
  rw [splitChars_eq_map]
  rw [← heq] at hscan
  rw [hscan]
  rfl

theorem splitChars_ok_iff {cs : List Char} :
    (∃ ls, splitChars cs = .ok ls) ↔ cs = [] ∨ ∀ l ∈ Text.lines cs, IsStatement l := by
  constructor
  · rintro ⟨ls, hok⟩
    rcases forall_or_exists_first IsStatement (Text.lines cs) with
      hall | ⟨before, l, after, heq, hl, hbefore⟩
    · exact .inr hall
    · left
      by_contra hne
      have hi : (Text.lines cs)[before.length]? = some l := by simp [heq]
      have htake : (Text.lines cs).take before.length = before := by simp [heq]
      obtain ⟨e, herror, -⟩ := splitChars_fault hne hi hl (by rwa [htake])
      simp [herror] at hok
  · rintro (rfl | hall)
    · exact ⟨[], splitChars_nil⟩
    · exact splitChars_of_statements hall

/-- A reader of a text exists exactly if the text is empty or has only statements as its lines, and
otherwise the first line that is none tells the fault. -/
theorem ofSource_first_fault (source : String) :
    ((∃ r, Reader.ofSource source = .ok r) ↔
      source = "" ∨ ∀ l ∈ Text.lines source.toList, IsStatement l) ∧
    ∀ i l, source ≠ "" → (Text.lines source.toList)[i]? = some l → ¬ IsStatement l →
      (∀ k ∈ (Text.lines source.toList).take i, IsStatement k) →
      ∀ e, Reader.ofSource source = .error e ↔
        LineFault i (Text.lineStart source.toList i) l e := by
  constructor
  · rw [← String.toList_eq_nil_iff, ← splitChars_ok_iff]
    unfold Reader.ofSource split
    cases splitChars source.toList <;> simp [Except.map]
  · intro i l hne hi hl hbefore e
    have hcs : source.toList ≠ [] := fun h => hne (String.toList_eq_nil_iff.mp h)
    obtain ⟨e', herror, hfault⟩ := splitChars_fault hcs hi hl hbefore
    have hsource : Reader.ofSource source = .error e' := by
      simp [Reader.ofSource, split, herror, Except.map]
    rw [hsource]
    constructor
    · intro h
      cases h
      exact hfault
    · intro h
      rw [hfault.unique rfl h]

theorem ofSource_first_fault_unclosed :
    Reader.ofSource "é;\nprint \"a;\nz" = .error (.unterminatedQuote ⟨10, 13, 2, 7⟩) :=
  ((ofSource_first_fault "é;\nprint \"a;\nz").2 1 "print \"a;".toList (by decide) (by decide)
    (by decide) (by decide) _).mpr
    (.unclosed "print ".toList "a;".toList (by decide) (by decide) (by decide))

end StatementLexer
