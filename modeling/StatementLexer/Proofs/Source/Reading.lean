import Mathlib.Algebra.Group.Nat.Defs
import StatementLexer.Proofs.Lexeme.Location
import StatementLexer.Proofs.Text.Boundary
import StatementLexer.Source.Cursor

/-! # Where a cursor stands

A cursor moves four counters at different rates: bytes, characters, lines and columns. All of them,
and all that it answers, are told by the number of characters it has read. Main statement:
`cursor_told_by_reads`.
-/

namespace StatementLexer

/-! ## Beginnings of a text -/

namespace Text

/-- Two beginnings of a text cut out what the longer one has behind the shorter. -/
theorem slice?_take (cs : List Char) {j k : Nat} (h : j ≤ k) :
    slice? (byteLength (cs.take j)) (byteLength (cs.take k)) cs = some ((cs.take k).drop j) := by
  have hlonger : cs.take k = cs.take j ++ (cs.take k).drop j := by
    have hcut := List.take_append_drop j (cs.take k)
    rw [List.take_take, Nat.min_eq_left h] at hcut
    exact hcut.symm
  have hwhole : cs = cs.take j ++ ((cs.take k).drop j ++ cs.drop k) := by
    rw [← List.append_assoc, ← hlonger, List.take_append_drop]
  refine slice?_eq_some_iff.mpr ⟨cs.take j, cs.drop k, hwhole, rfl, ?_⟩
  rw [← byteLength_append, ← hlonger]

theorem byteLength_le_take_iff (cs : List Char) (k : Nat) :
    byteLength cs ≤ byteLength (cs.take k) ↔ cs.length ≤ k := by
  have hsplit : byteLength cs = byteLength (cs.take k) + byteLength (cs.drop k) := by
    rw [← byteLength_append, List.take_append_drop]
  rw [← List.drop_eq_nil_iff]
  constructor
  · intro hle
    exact byteLength_eq_zero (by omega)
  · intro hdrop
    rw [hdrop, byteLength_nil] at hsplit
    omega

end Text

namespace Cursor

/-- The cursor that has read the first `k` characters of a text, or all of a shorter text. -/
def behind (cs : List Char) (k : Nat) : Cursor :=
  ⟨cs, cs.drop k, Mark.start (cs.take k)⟩

/-! ## Moves -/

/-- Reading a character leads to the cursor that has read one more; past the end the two are one. -/
theorem advance_behind (cs : List Char) (k : Nat) : (behind cs k).advance = behind cs (k + 1) := by
  by_cases hk : k < cs.length
  · have hrest : cs.drop k = cs[k] :: cs.drop (k + 1) := List.drop_eq_getElem_cons hk
    have hseen : cs.take (k + 1) = cs.take k ++ [cs[k]] := List.take_succ_eq_append_getElem hk
    unfold behind advance
    rw [hrest, hseen, Mark.start_concat]
  · have hend : cs.length ≤ k := by omega
    have hmore : cs.length ≤ k + 1 := by omega
    unfold behind advance
    rw [List.drop_eq_nil_of_le hend, List.drop_eq_nil_of_le hmore, List.take_of_length_le hend,
      List.take_of_length_le hmore]

theorem advanceBy_behind (cs : List Char) (j k : Nat) :
    (behind cs j).advanceBy k = behind cs (j + k) := by
  induction k generalizing j with
  | zero => rfl
  | succ k ih =>
      have hsum : j + 1 + k = j + (k + 1) := by omega
      rw [advanceBy, advance_behind, ih, hsum]

theorem advanceBy_ofString (source : String) (k : Nat) :
    (ofString source).advanceBy k = behind source.toList k := by
  have hread := advanceBy_behind source.toList 0 k
  rwa [Nat.zero_add] at hread

/-! ## Views -/

section

variable (cs : List Char) (k : Nat)

theorem mark_behind :
    (behind cs k).mark = ⟨Text.byteLength (cs.take k), 1 + (cs.take k).count '\n',
      1 + (Text.lastLine (cs.take k)).length⟩ := by
  show Mark.start (cs.take k) = _
  rw [← Mark.start_position, ← Mark.start_line, ← Mark.start_column]

theorem atEnd_behind : (behind cs k).atEnd = true ↔ cs.length ≤ k := by
  rw [atEnd, List.isEmpty_iff]
  exact List.drop_eq_nil_iff

theorem current?_behind : (behind cs k).current? = cs[k]? :=
  List.head?_drop

theorem following?_behind : (behind cs k).following? = cs[k + 1]? := by
  rw [following?, behind, List.tail_drop]
  exact List.head?_drop

/-- The current character ends where the cursor stands after reading it. -/
theorem span_behind :
    (behind cs k).span = (behind cs k).mark.spanTo (Text.byteLength (cs.take (k + 1))) := by
  have hposition : (behind cs k).mark.position = Text.byteLength (cs.take k) :=
    Mark.start_position _
  rw [span, current?_behind]
  by_cases hk : k < cs.length
  · have hseen : cs.take (k + 1) = cs.take k ++ [cs[k]] := List.take_succ_eq_append_getElem hk
    rw [List.getElem?_eq_getElem hk, hseen, Text.byteLength_append]
    simp [Mark.spanOf, hposition]
  · have hend : cs.length ≤ k := by omega
    have hmore : cs.length ≤ k + 1 := by omega
    rw [List.getElem?_eq_none hend, List.take_of_length_le hmore, hposition,
      List.take_of_length_le hend]

/-- Neither counter is more than one ahead of the characters of the text. -/
theorem counters_le :
    (behind cs k).mark.line ≤ cs.length + 1 ∧ (behind cs k).mark.column ≤ cs.length + 1 := by
  have hcount : (cs.take k).count '\n' ≤ (cs.take k).length := List.count_le_length
  have hlast := Text.length_lastLine_le (cs.take k)
  have htake : (cs.take k).length ≤ cs.length := List.length_take_le' k cs
  rw [mark_behind]
  show 1 + (cs.take k).count '\n' ≤ _ ∧ 1 + (Text.lastLine (cs.take k)).length ≤ _
  omega

end

theorem slice?_behind (cs : List Char) {j k : Nat} (h : j ≤ k) (i : Nat) :
    (behind cs i).slice? (Text.byteLength (cs.take j)) (Text.byteLength (cs.take k)) =
      some (String.ofList ((cs.take k).drop j)) := by
  rw [slice?, behind, Text.slice?_take cs h]
  rfl

/-- What is unread is cut out from the position of the cursor to the end of the text. -/
theorem slice?_rest (cs : List Char) (k : Nat) :
    (behind cs k).slice? (Text.byteLength (cs.take k)) (Text.byteLength cs) =
      some (behind cs k).remaining := by
  have hall : cs.take (max k cs.length) = cs := List.take_of_length_le (Nat.le_max_right _ _)
  have hcut := slice?_behind cs (Nat.le_max_left k cs.length) k
  rw [hall] at hcut
  exact hcut

end Cursor

/-- After any number of moves, those at the end included, a cursor has read that many characters, or
all there are. Its position counts their bytes, its line their line breaks and its column what stands
behind the last of these; what it shows and what it cuts out is told by the same number. With fewer
than `2 ^ 32 - 1` characters the counters are numbers of 32 bits. -/
theorem cursor_told_by_reads (source : String) (k : Nat) (c : Cursor)
    (hread : c = (Cursor.ofString source).advanceBy k) :
    let cs := source.toList
    c.mark = ⟨Text.byteLength (cs.take k), 1 + (cs.take k).count '\n',
      1 + (Text.lastLine (cs.take k)).length⟩ ∧
    c.remaining = String.ofList (cs.drop k) ∧
    c.slice? c.mark.position (Text.byteLength cs) = some c.remaining ∧
    (c.atEnd = true ↔ source.length ≤ k) ∧
    (Text.byteLength cs ≤ c.mark.position ↔ source.length ≤ k) ∧
    c.current? = cs[k]? ∧ c.current = cs[k]?.getD '\x00' ∧ c.following? = cs[k + 1]? ∧
    c.span = c.mark.spanTo (Text.byteLength (cs.take (k + 1))) ∧
    c.slice? c.span.start c.span.stop = some (String.ofList cs[k]?.toList) ∧
    (∀ j, j ≤ k →
      c.slice? ((Cursor.ofString source).advanceBy j).mark.position c.mark.position =
        some (String.ofList ((cs.take k).drop j))) ∧
    (source.length < 2 ^ 32 - 1 → c.mark.line < 2 ^ 32 ∧ c.mark.column < 2 ^ 32) := by
  intro cs
  have hc : c = Cursor.behind cs k := hread.trans (Cursor.advanceBy_ofString source k)
  have hposition : c.mark.position = Text.byteLength (cs.take k) := by
    rw [hc, Cursor.mark_behind]
  have hspan : c.span = c.mark.spanTo (Text.byteLength (cs.take (k + 1))) := by
    rw [hc]
    exact Cursor.span_behind cs k
  have hcurrent : c.current? = cs[k]? := by
    rw [hc]
    exact Cursor.current?_behind cs k
  have hone : (cs.take (k + 1)).drop k = cs[k]?.toList := by
    rw [List.drop_take, Nat.add_sub_cancel_left, List.take_one, List.head?_drop]
  refine ⟨?_, ?_, ?_, ?_, ?_, hcurrent, congrArg (·.getD '\x00') hcurrent, ?_, hspan, ?_, ?_, ?_⟩
  · rw [hc]
    exact Cursor.mark_behind cs k
  · rw [hc]
    rfl
  · rw [hposition, hc]
    exact Cursor.slice?_rest cs k
  · rw [hc, Cursor.atEnd_behind, String.length_toList]
  · rw [hposition, Text.byteLength_le_take_iff, String.length_toList]
  · rw [hc]
    exact Cursor.following?_behind cs k
  · rw [hspan]
    show c.slice? c.mark.position (Text.byteLength (cs.take (k + 1))) = _
    rw [hposition, hc, Cursor.slice?_behind cs (Nat.le_succ k), hone]
  · intro j hj
    rw [Cursor.advanceBy_ofString, Cursor.mark_behind, hposition, hc]
    exact Cursor.slice?_behind cs hj k
  · intro hlength
    obtain ⟨hline, hcolumn⟩ := Cursor.counters_le cs k
    rw [String.length_toList] at hline hcolumn
    rw [hc]
    omega

/-- A null character of the text looks like the end, but a cursor before it is not at the end. -/
theorem cursor_told_by_reads_null_character :
    let c := (Cursor.ofString "é\n\x00b").advanceBy 2
    let d := (Cursor.ofString "é\n\x00b").advanceBy 9
    c.mark = ⟨3, 2, 1⟩ ∧ c.current = '\x00' ∧ c.atEnd = false ∧ c.span = ⟨3, 4, 2, 1⟩ ∧
    c.slice? ((Cursor.ofString "é\n\x00b").advanceBy 1).mark.position c.mark.position =
      some "\n" ∧
    c.mark.line < 2 ^ 32 ∧ c.mark.column < 2 ^ 32 ∧
    d.mark = ⟨5, 2, 3⟩ ∧ d.current = '\x00' ∧ d.atEnd = true ∧ d.span = ⟨5, 5, 2, 3⟩ := by
  obtain ⟨hmark, -, -, hend, -, -, hcurrent, -, hspan, -, hslice, hcounters⟩ :=
    cursor_told_by_reads "é\n\x00b" 2 _ rfl
  obtain ⟨hmark', -, -, hend', -, -, hcurrent', -, hspan', -, -, -⟩ :=
    cursor_told_by_reads "é\n\x00b" 9 _ rfl
  obtain ⟨hline, hcolumn⟩ := hcounters (by decide)
  refine ⟨hmark.trans rfl, hcurrent.trans rfl, ?_, hspan.trans ?_, ?_, hline, hcolumn,
    hmark'.trans rfl, hcurrent'.trans rfl, hend'.mpr (by decide), hspan'.trans ?_⟩
  · rw [Bool.eq_false_iff]
    exact fun h => absurd (hend.mp h) (by decide)
  · rw [hmark]
    rfl
  · exact (hslice 1 (by decide)).trans rfl
  · rw [hmark']
    rfl

end StatementLexer
