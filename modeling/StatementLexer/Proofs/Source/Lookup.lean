import Mathlib.Data.List.DropRight
import StatementLexer.Proofs.Source.LineIndex
import StatementLexer.Proofs.Text.Boundary

/-! # Looking up lines and ranges

The index of a file has one entry for each line: they grow, and each stands between two characters
of the file. A line is found exactly if its number is one of these, and a range exactly if it is in
order and its ends are boundaries; what is found is told by the text alone, and so is each refusal.
Main statement: `file_index_exact`.
-/

namespace StatementLexer

/-! ## The entries of the index -/

theorem exists_break_of_mem_offsets {n m : Nat} {cs : List Char}
    (h : m ∈ offsetsBehindBreaks n cs) :
    ∃ before after, cs = before ++ '\n' :: after ∧ m = n + Text.byteLength before + 1 := by
  induction cs generalizing n with
  | nil => simp [offsetsBehindBreaks] at h
  | cons c cs ih =>
      have hcons : (c = '\n' ∧ m = n + c.utf8Size) ∨
          m ∈ offsetsBehindBreaks (n + c.utf8Size) cs := by
        by_cases hc : c = '\n'
        · simpa [offsetsBehindBreaks, hc] using h
        · simpa [offsetsBehindBreaks, hc] using h
      rcases hcons with ⟨rfl, rfl⟩ | hmem
      · exact ⟨[], cs, rfl, rfl⟩
      · obtain ⟨before, after, rfl, rfl⟩ := ih hmem
        refine ⟨c :: before, after, rfl, ?_⟩
        rw [Text.byteLength_cons]
        omega

theorem pairwise_offsetsBehindBreaks (n : Nat) (cs : List Char) :
    (offsetsBehindBreaks n cs).Pairwise (· < ·) := by
  induction cs generalizing n with
  | nil => exact .nil
  | cons c cs ih =>
      by_cases hc : c = '\n'
      · simp only [offsetsBehindBreaks, if_pos hc]
        refine List.pairwise_cons.mpr ⟨?_, ih _⟩
        intro m hm
        obtain ⟨before, after, -, rfl⟩ := exists_break_of_mem_offsets hm
        omega
      · simp only [offsetsBehindBreaks, if_neg hc]
        exact ih _

theorem length_offsetsBehindBreaks (n : Nat) (cs : List Char) :
    (offsetsBehindBreaks n cs).length = cs.count '\n' := by
  induction cs generalizing n with
  | nil => rfl
  | cons c cs ih =>
      by_cases hc : c = '\n'
      · simp [offsetsBehindBreaks, hc, ih]
      · simp [offsetsBehindBreaks, hc, ih]

namespace SourceFile

variable (f : SourceFile)

theorem pairwise_lineStarts : f.lineStarts.Pairwise (· < ·) := by
  refine List.pairwise_cons.mpr ⟨?_, pairwise_offsetsBehindBreaks 0 _⟩
  intro m hm
  obtain ⟨before, after, -, rfl⟩ := exists_break_of_mem_offsets hm
  omega

theorem isBoundary_of_mem_lineStarts {start : Nat} (h : start ∈ f.lineStarts) :
    Text.IsBoundary f.content.toList start := by
  rcases List.mem_cons.mp h with rfl | hmem
  · exact Text.isBoundary_append [] _
  · obtain ⟨before, after, hcontent, rfl⟩ := exists_break_of_mem_offsets hmem
    refine ⟨before ++ ['\n'], after, by simp [hcontent], ?_⟩
    rw [Text.byteLength_append, Nat.zero_add]
    rfl

theorem lineCount_eq : f.lineCount = 1 + f.content.toList.count '\n' := by
  unfold lineCount lineStarts
  rw [List.length_cons, length_offsetsBehindBreaks, Nat.add_comm]

/-! ## Lines -/

theorem lineCount_eq_length_lines : f.lineCount = (Text.lines f.content.toList).length := by
  rw [lineCount_eq, Text.length_lines]

theorem trimBreaks_of_not_mem {l : List Char} (h : '\n' ∉ l) :
    trimBreaks l = l.rdropWhile (· == '\r') := by
  induction l using List.reverseRecOn with
  | nil => rfl
  | append_singleton l c ih =>
      obtain ⟨hl, hc⟩ : '\n' ∉ l ∧ '\n' ≠ c := by simpa using h
      by_cases hreturn : c = '\r'
      · subst hreturn
        rw [trimBreaks_append_return, List.rdropWhile_concat_pos _ _ _ rfl, ih hl]
      · rw [trimBreaks_concat l hc.symm hreturn,
          List.rdropWhile_concat_neg _ _ _ (by simpa using hreturn)]

theorem exists_line_of_le {n : Nat} (hpos : 1 ≤ n) (hle : n ≤ f.lineCount) :
    ∃ piece, (Text.lines f.content.toList)[n - 1]? = some piece ∧
      f.line n = .ok (String.ofList (piece.rdropWhile (· == '\r'))) := by
  obtain ⟨i, rfl⟩ := Nat.exists_eq_add_of_le' hpos
  rw [lineCount_eq_length_lines] at hle
  have hpiece := List.getElem?_eq_getElem (Nat.lt_of_succ_le hle)
  refine ⟨_, hpiece, ?_⟩
  rw [line_of_getElem? hpiece,
    trimBreaks_of_not_mem (Text.not_mem_of_mem_lines (List.getElem_mem _))]

theorem line_eq_error {n : Nat} (h : ¬ (1 ≤ n ∧ n ≤ f.lineCount)) :
    f.line n = .error (.noSuchLine n f.lineCount) := by
  cases n with
  | zero => rfl
  | succ i =>
      have hnone : f.lineStarts[i]? = none := by
        rw [List.getElem?_eq_none_iff]
        unfold lineCount at h
        omega
      simp [line, hnone]

theorem exists_line_iff {n : Nat} :
    (∃ text, f.line n = .ok text) ↔ 1 ≤ n ∧ n ≤ f.lineCount := by
  constructor
  · rintro ⟨text, htext⟩
    by_contra h
    simp [f.line_eq_error h] at htext
  · rintro ⟨hpos, hle⟩
    obtain ⟨piece, -, hline⟩ := f.exists_line_of_le hpos hle
    exact ⟨_, hline⟩

/-! ## Ranges -/

/-- The file can be cut at both offsets, and the second is not past its end. -/
def CutsAt (start stop : Nat) : Prop :=
  stop ≤ f.length ∧ Text.IsBoundary f.content.toList start ∧ Text.IsBoundary f.content.toList stop

instance (start stop : Nat) : Decidable (f.CutsAt start stop) :=
  inferInstanceAs (Decidable (_ ∧ _ ∧ _))

variable {f} {start stop : Nat}

theorem range_eq_reversed_iff :
    f.range start stop = .error (.reversed start stop) ↔ stop < start := by
  unfold range
  by_cases h : stop < start
  · simp [h]
  · rw [if_neg h]
    cases Text.slice? start stop f.content.toList <;> simp [h]

theorem exists_range_iff (h : start ≤ stop) :
    (∃ text, f.range start stop = .ok text) ↔ f.CutsAt start stop := by
  have hcut : (Text.slice? start stop f.content.toList).isSome = true ↔ _ := Text.slice?_isSome_iff
  unfold range CutsAt length
  rw [if_neg (by omega)]
  cases hslice : Text.slice? start stop f.content.toList with
  | none => simpa [hslice, h] using hcut
  | some piece => simpa [hslice, h] using hcut

theorem range_eq_outOfBounds (h : start ≤ stop) (hcuts : ¬ f.CutsAt start stop) :
    f.range start stop = .error (.outOfBounds f.length start stop) := by
  rw [← exists_range_iff h] at hcuts
  unfold range at hcuts ⊢
  rw [if_neg (by omega)] at hcuts ⊢
  cases hslice : Text.slice? start stop f.content.toList with
  | none => rfl
  | some piece => simp [hslice] at hcuts

/-- A range holds the bytes of the file between its ends. -/
theorem bytes_of_range {text : String} (h : f.range start stop = .ok text) :
    Text.bytes text = ((Text.bytes f.content).drop start).take (stop - start) := by
  unfold range at h
  split at h
  next => cases h
  next =>
      split at h
      next piece hslice =>
          cases h
          obtain ⟨before, after, hcontent, rfl, rfl⟩ := Text.slice?_eq_some_iff.mp hslice
          have hbytes : Text.bytes f.content = Text.bytes (String.ofList before) ++
              (Text.bytes (String.ofList piece) ++ Text.bytes (String.ofList after)) := by
            rw [← Text.bytes_append, ← Text.bytes_append, ← String.ofList_append,
              ← String.ofList_append, ← hcontent, String.ofList_toList]
          rw [hbytes, Nat.add_sub_cancel_left, ← Text.length_bytes_ofList before,
            ← Text.length_bytes_ofList piece, List.drop_left, List.take_left]
      next => cases h

end SourceFile

/-- The index of a file starts with zero, grows, and has one entry for each line, each between two
characters. A line is given exactly for the numbers from one up to the number of lines: it is the
piece of the text between line breaks, without the carriage returns at its end. A range is given
exactly if it is in order and the file can be cut at its ends: it holds the bytes between them. Each
refusal names its cause. -/
theorem file_index_exact (file : SourceFile) :
    (file.lineStarts.head? = some 0 ∧ file.lineStarts.Pairwise (· < ·) ∧
      (∀ start ∈ file.lineStarts,
        Text.IsBoundary file.content.toList start ∧ start ≤ file.length) ∧
      file.lineStarts.length = 1 + file.content.toList.count '\n') ∧
    (∀ n,
      ((∃ text, file.line n = .ok text) ↔ 1 ≤ n ∧ n ≤ file.lineCount) ∧
      (1 ≤ n ∧ n ≤ file.lineCount → ∃ piece,
        (Text.lines file.content.toList)[n - 1]? = some piece ∧
        file.line n = .ok (String.ofList (piece.rdropWhile (· == '\r')))) ∧
      (¬ (1 ≤ n ∧ n ≤ file.lineCount) →
        file.line n = .error (.noSuchLine n file.lineCount))) ∧
    ∀ start stop,
      (file.range start stop = .error (.reversed start stop) ↔ stop < start) ∧
      (start ≤ stop →
        ((∃ text, file.range start stop = .ok text) ↔ file.CutsAt start stop) ∧
        (∀ text, file.range start stop = .ok text →
          Text.bytes text = ((Text.bytes file.content).drop start).take (stop - start)) ∧
        (¬ file.CutsAt start stop →
          file.range start stop = .error (.outOfBounds file.length start stop))) := by
  refine ⟨⟨rfl, file.pairwise_lineStarts, ?_, file.lineCount_eq⟩, ?_, ?_⟩
  · intro start hstart
    have hboundary := file.isBoundary_of_mem_lineStarts hstart
    exact ⟨hboundary, hboundary.le⟩
  · intro n
    exact ⟨file.exists_line_iff, fun h => file.exists_line_of_le h.1 h.2, file.line_eq_error⟩
  · intro start stop
    refine ⟨SourceFile.range_eq_reversed_iff, fun h => ?_⟩
    exact ⟨SourceFile.exists_range_iff h, fun _ => SourceFile.bytes_of_range,
      SourceFile.range_eq_outOfBounds h⟩

theorem file_index_exact_wide_characters :
    let file : SourceFile := ⟨"a.math", "é;\r\r\nü"⟩
    (6 ∈ file.lineStarts ∧ Text.IsBoundary file.content.toList 6) ∧
    (∃ piece, (Text.lines file.content.toList)[0]? = some piece ∧
      file.line 1 = .ok (String.ofList (piece.rdropWhile (· == '\r')))) ∧
    file.line 3 = .error (.noSuchLine 3 file.lineCount) ∧
    (∃ text, file.range 6 8 = .ok text ∧
      Text.bytes text = ((Text.bytes file.content).drop 6).take 2) ∧
    file.range 1 8 = .error (.outOfBounds file.length 1 8) ∧
    file.range 8 6 = .error (.reversed 8 6) := by
  intro file
  obtain ⟨⟨-, -, hstarts, -⟩, hline, hrange⟩ := file_index_exact file
  have hsecond : 6 ∈ file.lineStarts := by decide +kernel
  obtain ⟨hok, hbytes, -⟩ := (hrange 6 8).2 (by decide)
  obtain ⟨text, htext⟩ := hok.mpr (by decide +kernel)
  exact ⟨⟨hsecond, (hstarts 6 hsecond).1⟩, (hline 1).2.1 (by decide +kernel),
    (hline 3).2.2 (by decide +kernel), ⟨text, htext, hbytes text htext⟩,
    ((hrange 1 8).2 (by decide)).2.2 (by decide +kernel), (hrange 8 6).1.mpr (by decide)⟩

end StatementLexer
