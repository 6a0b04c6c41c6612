import Mathlib.Algebra.Group.Int.Defs
import Mathlib.Algebra.Group.Nat.Defs
import StatementLexer.Decimal.Numeral

/-! # Points and digits counted in words

The counts of a text are numbers modulo `2 ^ 32`, read as numbers with a sign. With fewer than
`2 ^ 31` digits and as few points they are true counts: a text passes them exactly if it is digits
with at most one point among them and at least one digit, and these are also the texts that can be
read. Main statements: `isNumeral_iff`, `read?_eq_some_iff`.
-/

namespace StatementLexer.Numeral

/-- Digits with at most one point among them, and at least one digit. -/
def HasShape (cs : List Char) : Prop :=
  (∀ c ∈ cs, c.isDigit = true ∨ c = '.') ∧ (∃ c ∈ cs, c.isDigit = true) ∧ cs.count '.' ≤ 1

instance (cs : List Char) : Decidable (HasShape cs) :=
  decidable_of_iff ((cs.all fun c => c.isDigit || c == '.') = true ∧
    cs.any Char.isDigit = true ∧ cs.count '.' ≤ 1) (by simp [HasShape])

theorem ne_point_of_digit {c : Char} (h : c.isDigit = true) : c ≠ '.' := by
  rintro rfl
  exact absurd h (by decide)

theorem not_mem_point_of_digits {cs : List Char} (h : ∀ c ∈ cs, c.isDigit = true) : '.' ∉ cs :=
  fun hmem => ne_point_of_digit (h '.' hmem) rfl

/-! ## Words -/

theorem toInt_ofNat_eq (n : Nat) :
    (Int32.ofNat n).toInt =
      if n % 2 ^ 32 < 2 ^ 31 then (n % 2 ^ 32 : Int) else n % 2 ^ 32 - 2 ^ 32 := by
  rw [Int32.toInt_ofNat', Int.bmod_def]
  simp only [Int32.size]
  split <;> split <;> omega

theorem pos_ofNat_iff {n : Nat} :
    0 < Int32.ofNat n ↔ 0 < n % 2 ^ 32 ∧ n % 2 ^ 32 < 2 ^ 31 := by
  rw [Int32.lt_iff_toInt_lt, toInt_ofNat_eq]
  have hzero : (0 : Int32).toInt = 0 := rfl
  rw [hzero]
  split <;> omega

theorem ofNat_le_one_iff {n : Nat} :
    Int32.ofNat n ≤ 1 ↔ n % 2 ^ 32 ≤ 1 ∨ 2 ^ 31 ≤ n % 2 ^ 32 := by
  rw [Int32.le_iff_toInt_le, toInt_ofNat_eq]
  have hone : (1 : Int32).toInt = 1 := rfl
  rw [hone]
  split <;> omega

/-! ## Counts -/

/-- With digits and points only, the counts go up by the true numbers of them. -/
theorem Marks.count_of_marks (m : Marks) {cs : List Char}
    (h : ∀ c ∈ cs, c.isDigit = true ∨ c = '.') :
    m.count cs = some ⟨m.points + Int32.ofNat (cs.count '.'),
      m.digits + Int32.ofNat (cs.countP Char.isDigit)⟩ := by
  induction cs generalizing m with
  | nil => simp [Marks.count]
  | cons c cs ih =>
      have hrest := fun m => ih m fun d hd => h d (List.mem_cons_of_mem c hd)
      rcases h c List.mem_cons_self with hdigit | rfl
      · rw [Marks.count, if_pos hdigit, hrest, List.count_cons_of_ne (ne_point_of_digit hdigit),
          List.countP_cons_of_pos hdigit, Nat.add_comm, Int32.ofNat_add, ← Int32.add_assoc]
        rfl
      · rw [Marks.count, if_neg (by decide), if_pos (by decide), hrest, List.count_cons_self,
          List.countP_cons_of_neg (by decide), Nat.add_comm, Int32.ofNat_add, ← Int32.add_assoc]
        rfl

theorem Marks.marks_of_count {m n : Marks} {cs : List Char} (h : m.count cs = some n) :
    ∀ c ∈ cs, c.isDigit = true ∨ c = '.' := by
  induction cs generalizing m with
  | nil => simp
  | cons c cs ih =>
      unfold Marks.count at h
      split at h
      next hdigit => exact List.forall_mem_cons.mpr ⟨.inl hdigit, ih h⟩
      next =>
          split at h
          next hpoint => exact List.forall_mem_cons.mpr ⟨.inr (beq_iff_eq.mp hpoint), ih h⟩
          next => cases h

theorem isNumeral_eq_true_iff {cs : List Char} :
    isNumeral cs = true ↔ (∀ c ∈ cs, c.isDigit = true ∨ c = '.') ∧
      0 < Int32.ofNat (cs.countP Char.isDigit) ∧ Int32.ofNat (cs.count '.') ≤ 1 := by
  constructor
  · intro h
    obtain ⟨m, hcount, hm⟩ := (Option.any_eq_true _ _).mp h
    have hmarks := Marks.marks_of_count hcount
    rw [Marks.count_of_marks _ hmarks] at hcount
    obtain rfl := Option.some.inj hcount
    exact ⟨hmarks, by simpa using hm⟩
  · rintro ⟨hmarks, hdigits, hpoints⟩
    rw [isNumeral, Marks.count_of_marks _ hmarks]
    simpa using ⟨hdigits, hpoints⟩

section

variable {cs : List Char}

/-- A text that can be read passes the counts with fewer than `2 ^ 31` digits. -/
theorem HasShape.isNumeral (h : HasShape cs) (hdigits : cs.countP Char.isDigit < 2 ^ 31) :
    isNumeral cs = true := by
  obtain ⟨hmarks, hdigit, hpoints⟩ := h
  rw [← List.countP_pos_iff] at hdigit
  rw [isNumeral_eq_true_iff, pos_ofNat_iff, ofNat_le_one_iff]
  exact ⟨hmarks, by omega, by omega⟩

/-- A text that passes the counts can be read with fewer than `2 ^ 31` points. -/
theorem hasShape_of_isNumeral (h : Numeral.isNumeral cs = true) (hpoints : cs.count '.' < 2 ^ 31) :
    HasShape cs := by
  rw [isNumeral_eq_true_iff, pos_ofNat_iff, ofNat_le_one_iff] at h
  obtain ⟨hmarks, hdigit, hone⟩ := h
  rw [HasShape, ← List.countP_pos_iff]
  exact ⟨hmarks, by omega, by omega⟩

/-- Below `2 ^ 31` characters the words count truly. -/
theorem isNumeral_iff (h : cs.length < 2 ^ 31) : Numeral.isNumeral cs = true ↔ HasShape cs := by
  have hdigits : cs.countP Char.isDigit ≤ cs.length := List.countP_le_length
  have hpoints : cs.count '.' ≤ cs.length := List.count_le_length
  exact ⟨fun hn => hasShape_of_isNumeral hn (by omega), fun hs => hs.isNumeral (by omega)⟩

end

theorem isNumeral_of_digits_iff {cs : List Char} (h : ∀ c ∈ cs, c.isDigit = true) :
    Numeral.isNumeral cs = true ↔ 0 < cs.length % 2 ^ 32 ∧ cs.length % 2 ^ 32 < 2 ^ 31 := by
  rw [isNumeral_eq_true_iff, List.countP_eq_length.mpr h,
    List.count_eq_zero.mpr (not_mem_point_of_digits h), pos_ofNat_iff]
  constructor
  · intro hcounts
    exact hcounts.2.1
  · intro hlength
    exact ⟨fun c hc => .inl (h c hc), hlength, by decide⟩

theorem isNumeral_digit_points_iff {c : Char} (hc : c.isDigit = true) (n : Nat) :
    Numeral.isNumeral (c :: List.replicate n '.') = true ↔
      n % 2 ^ 32 ≤ 1 ∨ 2 ^ 31 ≤ n % 2 ^ 32 := by
  have hdigits : (c :: List.replicate n '.').countP Char.isDigit = 1 := by
    rw [List.countP_cons_of_pos hc, List.countP_replicate]
    rfl
  have hpoints : (c :: List.replicate n '.').count '.' = n := by
    rw [List.count_cons_of_ne (ne_point_of_digit hc), List.count_replicate_self]
  have hmarks : ∀ d ∈ c :: List.replicate n '.', d.isDigit = true ∨ d = '.' := by
    refine List.forall_mem_cons.mpr ⟨.inl hc, fun d hd => .inr ?_⟩
    exact List.eq_of_mem_replicate hd
  rw [isNumeral_eq_true_iff, hdigits, hpoints, ofNat_le_one_iff]
  constructor
  · intro hcounts
    exact hcounts.2.2
  · intro hcount
    exact ⟨hmarks, by decide, hcount⟩

/-! ## Reading -/

section

variable {whole fraction : List Char} (hwhole : ∀ c ∈ whole, c.isDigit = true)
  (hfraction : ∀ c ∈ fraction, c.isDigit = true)

include hwhole

theorem hasShape_of_digits (hne : whole ≠ []) : HasShape whole := by
  have hcount : whole.count '.' = 0 := List.count_eq_zero.mpr (not_mem_point_of_digits hwhole)
  obtain ⟨c, hc⟩ := List.exists_mem_of_ne_nil whole hne
  exact ⟨fun d hd => .inl (hwhole d hd), ⟨c, hc, hwhole c hc⟩, by omega⟩

include hfraction

theorem hasShape_of_point (hne : whole ++ fraction ≠ []) : HasShape (whole ++ '.' :: fraction) := by
  have hcount : (whole ++ '.' :: fraction).count '.' = 1 := by
    simp [List.count_eq_zero.mpr (not_mem_point_of_digits hwhole),
      List.count_eq_zero.mpr (not_mem_point_of_digits hfraction)]
  have hmarks : ∀ c ∈ whole ++ '.' :: fraction, c.isDigit = true ∨ c = '.' := by
    intro c hc
    rcases List.mem_append.mp hc with hc | hc
    · exact .inl (hwhole c hc)
    · rcases List.mem_cons.mp hc with rfl | hc
      · exact .inr rfl
      · exact .inl (hfraction c hc)
  have hdigit : ∃ c ∈ whole ++ '.' :: fraction, c.isDigit = true := by
    obtain ⟨c, hc⟩ := List.exists_mem_of_ne_nil _ hne
    rcases List.mem_append.mp hc with hc | hc
    · exact ⟨c, by simp [hc], hwhole c hc⟩
    · exact ⟨c, by simp [hc], hfraction c hc⟩
  exact ⟨hmarks, hdigit, Nat.le_of_eq hcount⟩

end

theorem read?_of_hasShape {cs : List Char} (h : HasShape cs) : read? cs = some (value cs) := by
  obtain ⟨hmarks, ⟨d, hd, hdigit⟩, hcount⟩ := h
  have hsplit := List.takeWhile_append_dropWhile (p := Char.isDigit) (l := cs)
  have hstop := List.head?_dropWhile_not Char.isDigit cs
  unfold read?
  generalize cs.takeWhile Char.isDigit = whole at hsplit ⊢
  cases hbehind : cs.dropWhile Char.isDigit with
  | nil =>
      rw [hbehind, List.append_nil] at hsplit
      simp [hsplit, List.ne_nil_of_mem hd]
  | cons c fraction =>
      rw [hbehind] at hsplit hstop
      rw [← hsplit] at hmarks hd hcount
      obtain rfl : c = '.' := (hmarks c (by simp)).resolve_left (by simpa using hstop)
      have hpoint : '.' ∉ fraction := by
        rw [← List.count_eq_zero]
        rw [List.count_append, List.count_cons_self] at hcount
        omega
      have hfraction : ∀ x ∈ fraction, x.isDigit = true := by
        intro x hx
        refine (hmarks x (by simp [hx])).resolve_right ?_
        rintro rfl
        exact hpoint hx
      have hne : whole ++ fraction ≠ [] := by
        apply List.ne_nil_of_mem (a := d)
        simpa [ne_point_of_digit hdigit] using hd
      simp only [List.head?_cons, List.tail_cons, Option.all_some, beq_self_eq_true,
        List.all_eq_true.mpr hfraction, List.isEmpty_eq_false_iff.mpr hne]
      rfl

theorem hasShape_of_read? {cs : List Char} {x : Binary64} (h : read? cs = some x) :
    HasShape cs := by
  have hsplit := List.takeWhile_append_dropWhile (p := Char.isDigit) (l := cs)
  have hwhole : ∀ c ∈ cs.takeWhile Char.isDigit, c.isDigit = true :=
    List.all_eq_true.mp List.all_takeWhile
  unfold read? at h
  generalize cs.takeWhile Char.isDigit = whole at hsplit hwhole h
  cases hbehind : cs.dropWhile Char.isDigit with
  | nil =>
      rw [hbehind, List.append_nil] at hsplit
      rw [← hsplit]
      refine hasShape_of_digits hwhole ?_
      rintro rfl
      simp [hbehind] at h
  | cons c fraction =>
      simp only [hbehind, List.head?_cons, List.tail_cons, Option.all_some,
        Option.ite_none_right_eq_some, Bool.and_eq_true, beq_iff_eq, Bool.not_eq_true',
        List.isEmpty_eq_false_iff] at h
      obtain ⟨⟨⟨rfl, hfraction⟩, hne⟩, -⟩ := h
      rw [← hsplit, hbehind]
      exact hasShape_of_point hwhole (List.all_eq_true.mp hfraction) hne

theorem read?_eq_some_iff {cs : List Char} {x : Binary64} :
    read? cs = some x ↔ HasShape cs ∧ x = value cs := by
  constructor
  · intro h
    have hshape := hasShape_of_read? h
    rw [read?_of_hasShape hshape] at h
    exact ⟨hshape, (Option.some.inj h).symm⟩
  · rintro ⟨hshape, rfl⟩
    exact read?_of_hasShape hshape

theorem read?_eq_none_iff {cs : List Char} : read? cs = none ↔ ¬ HasShape cs := by
  rw [Option.eq_none_iff_forall_ne_some]
  simp [read?_eq_some_iff]

end StatementLexer.Numeral
