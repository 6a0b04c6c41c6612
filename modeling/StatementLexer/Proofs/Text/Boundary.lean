import StatementLexer.Text.Bytes

/-! # Where a text can be cut

An offset is a boundary if whole characters stand before it. A cut between two offsets succeeds
exactly if they are boundaries and in order, and it gives the characters between them.
-/

namespace StatementLexer.Text

/-- Whole characters of the text make up its first `n` bytes. -/
def IsBoundary (cs : List Char) (n : Nat) : Prop :=
  ∃ before after, cs = before ++ after ∧ byteLength before = n

theorem IsBoundary.le {cs : List Char} {n : Nat} (h : IsBoundary cs n) : n ≤ byteLength cs := by
  obtain ⟨before, after, rfl, rfl⟩ := h
  rw [byteLength_append]
  omega

theorem isBoundary_append (before after : List Char) :
    IsBoundary (before ++ after) (byteLength before) :=
  ⟨before, after, rfl, rfl⟩

theorem byteLength_eq_zero {cs : List Char} (h : byteLength cs = 0) : cs = [] := by
  cases cs with
  | nil => rfl
  | cons c cs =>
      have := c.utf8Size_pos
      rw [byteLength_cons] at h
      omega

/-- Of two beginnings of a text the one with no more bytes is a beginning of the other. -/
theorem exists_append_of_byteLength_le {xs ys us vs : List Char} (h : xs ++ ys = us ++ vs)
    (hle : byteLength xs ≤ byteLength us) : ∃ mid, us = xs ++ mid ∧ ys = mid ++ vs := by
  rcases List.append_eq_append_iff.mp h with ⟨mid, hus, hys⟩ | ⟨mid, rfl, rfl⟩
  · exact ⟨mid, hus, hys⟩
  · rw [byteLength_append] at hle
    obtain rfl : mid = [] := byteLength_eq_zero (by omega)
    exact ⟨[], by simp, by simp⟩

theorem exists_of_dropBytes? {n : Nat} {cs rest : List Char} (h : dropBytes? n cs = some rest) :
    ∃ before, cs = before ++ rest ∧ byteLength before = n := by
  induction cs generalizing n with
  | nil =>
      by_cases hn : n = 0
      · obtain rfl : [] = rest := by simpa [dropBytes?, hn] using h
        exact ⟨[], rfl, hn.symm⟩
      · simp [dropBytes?, hn] at h
  | cons c cs ih =>
      by_cases hn : n = 0
      · obtain rfl : c :: cs = rest := by simpa [dropBytes?, hn] using h
        exact ⟨[], rfl, hn.symm⟩
      · by_cases hle : c.utf8Size ≤ n
        · obtain ⟨before, rfl, hlength⟩ := ih (by simpa [dropBytes?, hn, hle] using h)
          refine ⟨c :: before, rfl, ?_⟩
          rw [byteLength_cons]
          omega
        · simp [dropBytes?, hn, hle] at h

theorem exists_of_takeBytes? {n : Nat} {cs front : List Char} (h : takeBytes? n cs = some front) :
    ∃ rest, cs = front ++ rest ∧ byteLength front = n := by
  induction cs generalizing n front with
  | nil =>
      by_cases hn : n = 0
      · obtain rfl : [] = front := by simpa [takeBytes?, hn] using h
        exact ⟨[], rfl, hn.symm⟩
      · simp [takeBytes?, hn] at h
  | cons c cs ih =>
      by_cases hn : n = 0
      · obtain rfl : [] = front := by simpa [takeBytes?, hn] using h
        exact ⟨c :: cs, rfl, hn.symm⟩
      · by_cases hle : c.utf8Size ≤ n
        · simp only [takeBytes?, if_neg hn, if_pos hle, Option.map_eq_some_iff] at h
          obtain ⟨more, hmore, rfl⟩ := h
          obtain ⟨rest, rfl, hlength⟩ := ih hmore
          refine ⟨rest, rfl, ?_⟩
          rw [byteLength_cons]
          omega
        · simp [takeBytes?, hn, hle] at h

theorem takeBytes?_eq_some_iff {n : Nat} {cs front : List Char} :
    takeBytes? n cs = some front ↔ ∃ rest, cs = front ++ rest ∧ byteLength front = n := by
  constructor
  · exact exists_of_takeBytes?
  · rintro ⟨rest, rfl, rfl⟩
    exact takeBytes?_append front rest

theorem isBoundary_iff {cs : List Char} {n : Nat} :
    IsBoundary cs n ↔ (takeBytes? n cs).isSome = true := by
  simp only [Option.isSome_iff_exists, takeBytes?_eq_some_iff, IsBoundary]

instance (cs : List Char) (n : Nat) : Decidable (IsBoundary cs n) :=
  decidable_of_iff _ isBoundary_iff.symm

theorem slice?_eq_some_iff {start stop : Nat} {cs piece : List Char} :
    slice? start stop cs = some piece ↔
      ∃ before after, cs = before ++ (piece ++ after) ∧ byteLength before = start ∧
        byteLength before + byteLength piece = stop := by
  constructor
  · intro h
    unfold slice? at h
    split at h
    next hle =>
        obtain ⟨rest, hrest, hpiece⟩ := Option.bind_eq_some_iff.mp h
        obtain ⟨before, rfl, hstart⟩ := exists_of_dropBytes? hrest
        obtain ⟨after, rfl, hlength⟩ := exists_of_takeBytes? hpiece
        exact ⟨before, after, rfl, hstart, by omega⟩
    next => cases h
  · rintro ⟨before, after, rfl, rfl, rfl⟩
    rw [← List.append_assoc]
    exact slice?_append before piece after

/-- A cut does not fail exactly if its offsets are in order, within the text and both boundaries. -/
theorem slice?_isSome_iff {start stop : Nat} {cs : List Char} :
    (slice? start stop cs).isSome = true ↔
      start ≤ stop ∧ stop ≤ byteLength cs ∧ IsBoundary cs start ∧ IsBoundary cs stop := by
  rw [Option.isSome_iff_exists]
  constructor
  · rintro ⟨piece, h⟩
    obtain ⟨before, after, rfl, rfl, rfl⟩ := slice?_eq_some_iff.mp h
    have hstop : IsBoundary (before ++ (piece ++ after)) (byteLength before + byteLength piece) := by
      rw [← List.append_assoc, ← byteLength_append]
      exact isBoundary_append _ after
    exact ⟨by omega, hstop.le, isBoundary_append before _, hstop⟩
  · rintro ⟨hle, -, ⟨before, after, rfl, rfl⟩, front, rest, hfront, rfl⟩
    obtain ⟨piece, rfl, rfl⟩ := exists_append_of_byteLength_le hfront hle
    exact ⟨piece, slice?_eq_some_iff.mpr ⟨before, rest, rfl, rfl, by rw [byteLength_append]⟩⟩

end StatementLexer.Text
