import StatementLexer.Proofs.Lexeme.Statements
import StatementLexer.Proofs.Token.Language

/-! # Strings are opaque

Two texts that differ only between the two quotes of one string are read side by side. Before the
string the pass is the same; behind it, it stands in states that differ in nothing but positions,
and such states stay alike over any text that follows. So the text of a string decides its own
token alone. Main statement: `tokenize_string_frame`.
-/

namespace StatementLexer

/-! ## States that differ in positions only -/

inductive Mode.Alike : Mode → Mode → Prop where
  | between : Alike .between .between
  | run (start start' : Mark) (taken : List Char) : Alike (.run start taken) (.run start' taken)
  | quote (start start' : Mark) (taken : List Char) :
      Alike (.quote start taken) (.quote start' taken)

theorem Mode.Alike.opening {m m' : Mode} (h : Alike m m') (hopen : m.opening? = none) :
    m'.opening? = none := by
  cases h with
  | between => rfl
  | run => rfl
  | quote => simp at hopen

namespace Splitting

/-- Two states in the same mode that have found the same texts since they had found `prior` and
`prior'`. -/
structure Alike (prior prior' : List Lexeme) (s t : Splitting) : Prop where
  mode : s.mode.Alike t.mode
  found : ∃ new new' : List Lexeme, s.found = new ++ prior ∧ t.found = new' ++ prior' ∧
    new.map Lexeme.text = new'.map Lexeme.text

namespace Alike

variable {prior prior' : List Lexeme} {s t : Splitting}

/-- Positions do not matter, and alike modes may be entered. -/
theorem enter (h : Alike prior prior' s t) {m m' : Mode} (hmode : m.Alike m') (here here' : Mark) :
    Alike prior prior' ⟨here, m, s.found⟩ ⟨here', m', t.found⟩ :=
  ⟨hmode, h.found⟩

theorem push (h : Alike prior prior' s t) (text : String) (span span' : Span) {m m' : Mode}
    (hmode : m.Alike m') (here here' : Mark) :
    Alike prior prior' ⟨here, m, ⟨text, span⟩ :: s.found⟩
      ⟨here', m', ⟨text, span'⟩ :: t.found⟩ := by
  obtain ⟨new, new', hnew, hnew', htexts⟩ := h.found
  refine ⟨hmode, ⟨text, span⟩ :: new, ⟨text, span'⟩ :: new', ?_, ?_, ?_⟩
  · rw [hnew, List.cons_append]
  · rw [hnew', List.cons_append]
  · rw [List.map_cons, List.map_cons, htexts]

theorem flush (h : Alike prior prior' s t) : Alike prior prior' s.flush t.flush := by
  obtain ⟨here, mode, found⟩ := s
  obtain ⟨here', mode', found'⟩ := t
  cases h.mode with
  | between => exact h
  | run start start' taken => exact h.push _ _ _ .between here here'
  | quote start start' taken => exact h

theorem stepPlain (h : Alike prior prior' s t) (hopen : s.mode.opening? = none) (c : Char) :
    Alike prior prior' (s.stepPlain c) (t.stepPlain c) := by
  rcases char_cases c with rfl | hsep | hsym | hord
  · rw [stepPlain_quote, stepPlain_quote]
    exact h.flush.enter (.quote s.here t.here ['"']) _ _
  · rw [stepPlain_separator s hsep, stepPlain_separator t hsep]
    exact h.flush.enter h.flush.mode _ _
  · rw [stepPlain_symbol s hsym, stepPlain_symbol t hsym]
    exact h.flush.push _ _ _ h.flush.mode _ _
  · obtain ⟨here, mode, found⟩ := s
    obtain ⟨here', mode', found'⟩ := t
    cases h.mode with
    | between =>
        rw [stepPlain_ordinary_between rfl hord, stepPlain_ordinary_between rfl hord]
        exact h.enter (.run here here' [c]) _ _
    | run start start' taken =>
        rw [stepPlain_ordinary_run rfl hord, stepPlain_ordinary_run rfl hord]
        exact h.enter (.run start start' (c :: taken)) _ _
    | quote start start' taken => simp at hopen

theorem read (h : Alike prior prior' s t) (c : Char) :
    Alike prior prior' (s.read c) (t.read c) := by
  cases hopen : s.mode.opening? with
  | none =>
      rw [read_of_opening_none hopen, read_of_opening_none (h.mode.opening hopen)]
      exact h.stepPlain hopen c
  | some start =>
      obtain ⟨here, mode, found⟩ := s
      obtain ⟨here', mode', found'⟩ := t
      cases h.mode with
      | between => simp at hopen
      | run => simp at hopen
      | quote start start' taken =>
          unfold Splitting.read
          by_cases hc : c = '"'
          · simp only [if_pos hc]
            exact h.push _ _ _ .between _ _
          · simp only [if_neg hc]
            exact h.enter (.quote start start' (c :: taken)) _ _

/-- What is accepted in one state is accepted in the other. -/
theorem scan (h : Alike prior prior' s t) (hpos : 0 < t.here.position) {cs : List Char}
    {s' : Splitting} (hscan : s.scan cs = .ok s') :
    ∃ t', t.scan cs = .ok t' ∧ Alike prior prior' s' t' := by
  induction cs generalizing s t with
  | nil =>
      obtain rfl : s = s' := by simpa [Splitting.scan] using hscan
      exact ⟨t, rfl, h⟩
  | cons c cs ih =>
      obtain ⟨hstep, hrest⟩ := scan_cons_spec hscan
      obtain ⟨-, hbreak, hend⟩ := step_spec hstep
      have hstep' : t.step c cs = .ok (t.read c) := by
        apply step_of_accepted
        · intro hc
          exact ⟨hpos, h.mode.opening (hbreak hc).2⟩
        · intro hlast
          exact ⟨(hend hlast).1, h.mode.opening (hend hlast).2⟩
      have hpos' : 0 < (t.read c).here.position := by
        rw [read_here, Mark.after_position]
        omega
      obtain ⟨t', hscan', halike⟩ := ih (h.read c) hpos' hrest
      exact ⟨t', by rw [scan_cons_of_ok hstep', hscan'], halike⟩

end Alike

/-! ## One string -/

theorem read_quote_inside {s : Splitting} {start : Mark} {taken : List Char}
    (hm : s.mode = .quote start taken) {c : Char} (hc : c ≠ '"') :
    s.read c = { s with mode := .quote start (c :: taken) }.advance c := by
  simp [read, hm, hc]

theorem read_quote_close {s : Splitting} {start : Mark} {taken : List Char}
    (hm : s.mode = .quote start taken) :
    s.read '"' = { s with
      mode := .between
      found := ⟨String.ofList ('"' :: taken).reverse, start.spanTo (s.here.position + 1)⟩ ::
        s.found }.advance '"' := by
  unfold read
  rw [hm]
  rfl

theorem foldl_read_quote {s : Splitting} {start : Mark} {taken : List Char}
    (hm : s.mode = .quote start taken) {cs : List Char} (hcs : '"' ∉ cs) :
    (cs.foldl read s).mode = .quote start (cs.reverse ++ taken) ∧
      (cs.foldl read s).found = s.found := by
  induction cs generalizing s taken with
  | nil => exact ⟨hm, rfl⟩
  | cons c cs ih =>
      have hc : c ≠ '"' := (List.ne_of_not_mem_cons hcs).symm
      have hread := read_quote_inside hm hc
      have hinside : (s.read c).mode = .quote start (c :: taken) := by rw [hread]; rfl
      obtain ⟨hmode, hfound⟩ := ih hinside (List.not_mem_of_not_mem_cons hcs)
      rw [List.foldl_cons, hmode, hfound, hread, List.reverse_cons, List.append_assoc]
      exact ⟨rfl, rfl⟩

def literal (s : Splitting) (body : List Char) : Lexeme :=
  ⟨String.ofList ('"' :: (body ++ ['"'])),
    s.here.spanTo (s.here.position + Text.byteLength ('"' :: body) + 1)⟩

/-- A string that is read from its first quote to its last is the only lexeme found there. -/
theorem foldl_read_literal {s : Splitting} (hopen : s.mode.opening? = none) {body : List Char}
    (hbody : '"' ∉ body) :
    ((('"' :: body).foldl read s).read '"').mode = .between ∧
      ((('"' :: body).foldl read s).read '"').found = s.literal body :: s.flush.found := by
  have hread : s.read '"' = { s.flush with mode := .quote s.here ['"'] }.advance '"' := by
    rw [read_of_opening_none hopen, stepPlain_quote]
  have hentered : (s.read '"').mode = .quote s.here ['"'] := by rw [hread]; rfl
  obtain ⟨hmode, hfound⟩ := foldl_read_quote hentered hbody
  rw [← List.foldl_cons] at hmode hfound
  rw [read_quote_close hmode, hfound, hread, foldl_read_here, Mark.behind_position]
  refine ⟨rfl, ?_⟩
  simp [literal, advance]

/-- Outside of strings, the same text stands behind a string whatever its body is: the states there
are alike. -/
theorem alike_literals {s : Splitting} (hopen : s.mode.opening? = none) {u v : List Char}
    (hu : '"' ∉ u) (hv : '"' ∉ v) :
    Alike (s.literal u :: s.flush.found) (s.literal v :: s.flush.found)
      ((('"' :: u).foldl read s).read '"') ((('"' :: v).foldl read s).read '"') := by
  obtain ⟨hmode, hfound⟩ := foldl_read_literal hopen hu
  obtain ⟨hmode', hfound'⟩ := foldl_read_literal hopen hv
  refine ⟨?_, [], [], hfound, hfound', rfl⟩
  rw [hmode, hmode']
  exact .between

/-- Accepted behind one string, a text is accepted behind another. -/
theorem scan_literal {s s' : Splitting} (hopen : s.mode.opening? = none) {u v : List Char}
    (hu : '"' ∉ u ∧ '\n' ∉ u) (hv : '"' ∉ v ∧ '\n' ∉ v) {q : List Char}
    (h : s.scan ('"' :: u ++ '"' :: q) = .ok s') :
    ∃ t', s.scan ('"' :: v ++ '"' :: q) = .ok t' ∧
      Alike (s.literal u :: s.flush.found) (s.literal v :: s.flush.found) s' t' := by
  have hquote : ('"' : Char) ≠ '\n' := by decide
  rw [scan_inner s (by simp [hu.2]) hquote] at h
  rw [scan_inner s (by simp [hv.2]) hquote]
  obtain ⟨hstep, hrest⟩ := scan_cons_spec h
  have hmore : endsLine q = false := by
    rw [Bool.eq_false_iff]
    intro hend
    exact absurd ((step_spec hstep).2.2 hend).1 (by decide)
  rw [scan_cons_of_ok (step_inner _ hmore hquote)]
  apply (alike_literals hopen hu.1 hv.1).scan _ hrest
  rw [read_here, Mark.after_position]
  exact Nat.add_pos_right _ ('"').utf8Size_pos

end Splitting

/-! ## Where a string may start -/

/-- In an accepted text no string is open where the quotes since the last line break pair up. -/
theorem Splitting.opening_of_even {s' : Splitting} {p rest : List Char}
    (h : initial.scan (p ++ rest) = .ok s') (hp : (Text.lastLine p).count '"' % 2 = 0) :
    (p.foldl read initial).mode.opening? = none := by
  have hline : ∀ s : Splitting, s.mode.opening? = none →
      ((Text.lastLine p).foldl read s).mode.opening? = none := by
    intro s hs
    rcases foldl_read_opening hs (Text.lastLine p) with ⟨hopen, -⟩ | ⟨_, _, -, -, hodd, -⟩
    · exact hopen
    · omega
  rcases (Text.eq_append_lastLine p).2 with hall | ⟨before, hall⟩
  · rw [hall]
    exact hline initial rfl
  · rw [hall, List.append_assoc, List.cons_append] at h
    obtain ⟨hstep, -⟩ := scan_cons_spec (scan_append_spec h)
    have hclosed := ((step_spec hstep).2.1 rfl).2
    rw [hall, List.foldl_append, List.foldl_cons]
    apply hline
    rw [read_opening]
    simpa using hclosed

/-! ## The whole text -/

/-- The lexemes of two texts that differ in the body of a string: the same before the string, the
string itself, and the same texts behind it. -/
theorem splitChars_literal {p q u v : List Char} {ls : List Lexeme} (hu : '"' ∉ u ∧ '\n' ∉ u)
    (hv : '"' ∉ v ∧ '\n' ∉ v) (hp : (Text.lastLine p).count '"' % 2 = 0)
    (h : splitChars (p ++ ('"' :: u ++ '"' :: q)) = .ok ls) :
    ∃ before l l' after after', ls = before ++ l :: after ∧
      splitChars (p ++ ('"' :: v ++ '"' :: q)) = .ok (before ++ l' :: after') ∧
      l.text.toList = '"' :: (u ++ ['"']) ∧ l'.text.toList = '"' :: (v ++ ['"']) ∧
      l.span.start = Text.byteLength p ∧ l'.span.start = Text.byteLength p ∧
      after.map Lexeme.text = after'.map Lexeme.text := by
  obtain ⟨s', hscan, rfl⟩ := splitChars_eq_ok_iff.mp h
  have hopen := Splitting.opening_of_even hscan hp
  have hstart : (p.foldl Splitting.read Splitting.initial).here.position = Text.byteLength p := by
    rw [Splitting.foldl_read_here, Mark.behind_position]
    exact Nat.zero_add _
  obtain ⟨t', hscan', -, new, new', hnew, hnew', htexts⟩ :=
    Splitting.scan_literal hopen hu hv (Splitting.scan_append_spec hscan)
  rw [List.cons_append] at hscan hscan'
  have hscan'' : Splitting.initial.scan (p ++ '"' :: (v ++ '"' :: q)) = .ok t' := by
    rw [Splitting.scan_append_cons hscan, hscan']
  refine ⟨(p.foldl Splitting.read Splitting.initial).flush.found.reverse,
    (p.foldl Splitting.read Splitting.initial).literal u,
    (p.foldl Splitting.read Splitting.initial).literal v, new.reverse, new'.reverse, ?_,
    splitChars_eq_ok_iff.mpr ⟨t', hscan'', ?_⟩, String.toList_ofList, String.toList_ofList, hstart,
    hstart, ?_⟩
  · simp [hnew]
  · simp [hnew']
  · rw [List.map_reverse, List.map_reverse, htexts]

theorem Lexeme.Denotes.of_text {l l' : Lexeme} {t : Token} (h : l.Denotes t)
    (htext : l.text = l'.text) : l'.Denotes t := by
  obtain ⟨text, span⟩ := l
  obtain ⟨text', span'⟩ := l'
  obtain rfl : text = text' := htext
  cases h with
  | symbol c hc hone => exact .symbol c hc hone
  | quoted body hquote hbreak hall => exact .quoted body hquote hbreak hall
  | number hrun hnumeric => exact .number hrun hnumeric
  | name hrun hletter => exact .name hrun hletter

theorem forall₂_denotes_congr {ls ls' : List Lexeme} {ts : List Token}
    (h : List.Forall₂ Lexeme.Denotes ls ts) (htexts : ls.map Lexeme.text = ls'.map Lexeme.text) :
    List.Forall₂ Lexeme.Denotes ls' ts := by
  induction h generalizing ls' with
  | nil =>
      obtain rfl : ls' = [] := by simpa using htexts.symm
      exact .nil
  | cons hdenotes _ ih =>
      cases ls' with
      | nil => simp at htexts
      | cons l' ls' =>
          obtain ⟨htext, hrest⟩ := List.cons.inj htexts
          exact .cons (hdenotes.of_text htext) (ih hrest)

theorem isCounted_congr {ls ls' : List Lexeme} (h : ∀ l ∈ ls, l.IsCounted)
    (htexts : ls.map Lexeme.text = ls'.map Lexeme.text) : ∀ l ∈ ls', l.IsCounted := by
  have hall : ∀ text ∈ ls.map Lexeme.text, Numeral.HasShape text.toList →
      Numeral.isNumeral text.toList = true := List.forall_mem_map.mpr h
  rw [htexts] at hall
  intro l hl
  exact hall l.text (List.mem_map_of_mem hl)

theorem forall₂_denotes_append_cons {before after : List Lexeme} {l : Lexeme} {ts : List Token}
    (h : List.Forall₂ Lexeme.Denotes (before ++ l :: after) ts) :
    ∃ first t last, ts = first ++ t :: last ∧ List.Forall₂ Lexeme.Denotes before first ∧
      l.Denotes t ∧ List.Forall₂ Lexeme.Denotes after last := by
  induction before generalizing ts with
  | nil =>
      obtain ⟨t, last, ht, hlast, rfl⟩ := List.forall₂_cons_left_iff.mp h
      exact ⟨[], t, last, rfl, .nil, ht, hlast⟩
  | cons k before ih =>
      obtain ⟨u, rest, hu, hrest, rfl⟩ := List.forall₂_cons_left_iff.mp h
      obtain ⟨first, t, last, rfl, hfirst, ht, hlast⟩ := ih hrest
      exact ⟨u :: first, t, last, rfl, .cons hu hfirst, ht, hlast⟩

theorem Lexeme.denotes_string_iff {l : Lexeme} {body : String}
    (hbody : '"' ∉ body.toList ∧ '\n' ∉ body.toList)
    (htext : l.text.toList = '"' :: (body.toList ++ ['"'])) {t : Token} :
    l.Denotes t ↔ t = .string body := by
  have hshape : ∃ shape : Shape, shape.Describes l.text.toList :=
    ⟨.quoted, body.toList, hbody.1, hbody.2, htext⟩
  have hquoted : l.classify = .ok (.string body) := by
    rw [classify_quoted htext, String.ofList_toList]
  obtain ⟨hdenotes, hcounted⟩ := (classify_eq_ok_iff hshape).mp hquoted
  constructor
  · intro h
    have hsame := (classify_eq_ok_iff hshape).mpr ⟨h, hcounted⟩
    rw [hquoted] at hsame
    exact (Except.ok.inj hsame).symm
  · rintro rfl
    exact hdenotes

/-- The body of a string decides its own token alone. If the quotes of `p` behind its last line
break pair up, so that a string starts behind `p`, and the whole text has tokens with the body `u`,
then it has the same tokens with any other body, but for the token of that string. -/
theorem tokenize_string_frame (p q u v : String) (hu : '"' ∉ u.toList ∧ '\n' ∉ u.toList)
    (hv : '"' ∉ v.toList ∧ '\n' ∉ v.toList) (hp : (Text.lastLine p.toList).count '"' % 2 = 0)
    (ts : List Token) (h : tokenize (p ++ "\"" ++ u ++ "\"" ++ q) = .ok ts) :
    ∃ before after, ts = before ++ .string u :: after ∧
      tokenize (p ++ "\"" ++ v ++ "\"" ++ q) = .ok (before ++ .string v :: after) ∧
      ∃ ls ms l m, split (p ++ "\"" ++ u ++ "\"" ++ q) = .ok ls ∧
        split (p ++ "\"" ++ v ++ "\"" ++ q) = .ok ms ∧
        ls[before.length]? = some l ∧ ms[before.length]? = some m ∧
        l.text = "\"" ++ u ++ "\"" ∧ m.text = "\"" ++ v ++ "\"" ∧
        l.span.start = Text.byteLength p.toList ∧ m.span.start = Text.byteLength p.toList := by
  have hchars : ∀ w : String, (p ++ "\"" ++ w ++ "\"" ++ q).toList =
      p.toList ++ ('"' :: w.toList ++ '"' :: q.toList) := by
    intro w
    simp
  obtain ⟨ls, hls⟩ := exists_split_of_tokenize h
  have hsplit := hls
  unfold split at hsplit
  rw [hchars] at hsplit
  obtain ⟨before, l, m, after, after', rfl, hms, hl, hm, hlstart, hmstart, htexts⟩ :=
    splitChars_literal hu hv hp hsplit
  have hms' : split (p ++ "\"" ++ v ++ "\"" ++ q) = .ok (before ++ m :: after') := by
    rw [split, hchars]
    exact hms
  obtain ⟨hdenotes, hcounted⟩ := (tokenize_iff_forall₂ hls).mp h
  obtain ⟨first, t, last, rfl, hfirst, ht, hlast⟩ := forall₂_denotes_append_cons hdenotes
  obtain rfl := (Lexeme.denotes_string_iff hu hl).mp ht
  have hm' : m.Denotes (.string v) := (Lexeme.denotes_string_iff hv hm).mpr rfl
  have hlength : before.length = first.length := hfirst.length_eq
  refine ⟨first, last, rfl, ?_, _, _, l, m, hls, hms', ?_, ?_, ?_, ?_, hlstart, hmstart⟩
  · refine (tokenize_iff_forall₂ hms').mpr
      ⟨List.rel_append hfirst (.cons hm' (forall₂_denotes_congr hlast htexts)), ?_⟩
    rw [List.forall_mem_append, List.forall_mem_cons] at hcounted ⊢
    exact ⟨hcounted.1, hm'.isCounted (by simp [Token.kind]), isCounted_congr hcounted.2.2 htexts⟩
  · simp [← hlength]
  · simp [← hlength]
  · rw [← String.toList_inj, hl]
    simp
  · rw [← String.toList_inj, hm]
    simp

theorem tokenize_string_frame_terminator_inside :
    ∃ before after,
      tokenize "a;\nb=\"x\"+\"1\"/2;" = .ok (before ++ .string "1" :: after) ∧
      tokenize "a;\nb=\"x\"+\"é = ;\"/2;" = .ok (before ++ .string "é = ;" :: after) := by
  have htokens : tokenize ("a;\nb=\"x\"+" ++ "\"" ++ "1" ++ "\"" ++ "/2;") =
      .ok [.name "a", .symbol ';', .name "b", .symbol '=', .string "x", .symbol '+', .string "1",
        .symbol '/', .number ⟨0x4000000000000000⟩, .symbol ';'] := by
    decide +kernel
  obtain ⟨before, after, hts, hother, -⟩ := tokenize_string_frame "a;\nb=\"x\"+" "/2;" "1" "é = ;"
    (by decide) (by decide) (by decide +kernel) _ htokens
  exact ⟨before, after, hts ▸ htokens, hother⟩

end StatementLexer
