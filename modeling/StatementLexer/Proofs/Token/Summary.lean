import Mathlib.Data.List.Basic
import Mathlib.Data.List.Induction
import StatementLexer.Token.Tally

/-! # What a tally tells

A tally is seen through two views: the kinds it lists, in order, and the count of each kind. Adding
a token moves these views by one place, and a tally that lists no kind twice is told by them. So a
tally of tokens can be counted up token by token, and the tally of two lists one after the other is
put together from the tallies of both. Main statement: `tally_counts_kinds_in_order`.
-/

namespace StatementLexer

namespace Tally

def kinds (tally : Tally) : List TokenKind :=
  tally.map (·.1)

def total : Tally → Nat
  | [] => 0
  | (_, n) :: rest => n + total rest

@[simp] theorem kinds_nil : kinds [] = [] := rfl

@[simp] theorem kinds_cons (e : TokenKind × Nat) (tally : Tally) :
    kinds (e :: tally) = e.1 :: tally.kinds := rfl

@[simp] theorem total_nil : total [] = 0 := rfl

@[simp] theorem total_cons (e : TokenKind × Nat) (tally : Tally) :
    total (e :: tally) = e.2 + tally.total := rfl

@[simp] theorem count_nil (kind : TokenKind) : count kind [] = 0 := rfl

theorem count_cons (kind : TokenKind) (e : TokenKind × Nat) (tally : Tally) :
    count kind (e :: tally) = if e.1 = kind then e.2 else tally.count kind := by
  by_cases h : e.1 = kind
  · simp [count, h]
  · simp [count, h]

/-- A tally that lists no kind twice is told by its kinds and their counts. -/
theorem eq_map_count {tally : Tally} (h : tally.kinds.Nodup) :
    tally = tally.kinds.map fun kind => (kind, tally.count kind) := by
  induction tally with
  | nil => rfl
  | cons e tally ih =>
      obtain ⟨hnew, hrest⟩ := List.nodup_cons.mp h
      have hsame : ∀ kind ∈ kinds tally, count kind (e :: tally) = count kind tally := by
        intro kind hkind
        have hne : e.1 ≠ kind := by
          rintro rfl
          exact hnew hkind
        rw [count_cons, if_neg hne]
      rw [kinds_cons, List.map_cons, count_cons, if_pos rfl,
        List.map_congr_left fun kind hkind => by rw [hsame kind hkind], ← ih hrest]

/-! ## One more token -/

theorem kinds_add (kind : TokenKind) (n : Nat) (tally : Tally) :
    (tally.add kind n).kinds =
      if kind ∈ tally.kinds then tally.kinds else tally.kinds ++ [kind] := by
  induction tally with
  | nil => rfl
  | cons e tally ih =>
      by_cases he : e.1 = kind
      · simp [add, he]
      · simp only [add, if_neg he, kinds_cons, ih, List.mem_cons, Ne.symm he, false_or]
        split <;> rfl

theorem count_add (kind other : TokenKind) (n : Nat) (tally : Tally) :
    (tally.add kind n).count other = tally.count other + if kind = other then n else 0 := by
  induction tally with
  | nil => simp [add, count_cons]
  | cons e tally ih =>
      by_cases he : e.1 = kind
      · subst he
        simp only [add, if_pos, count_cons]
        split <;> simp
      · simp only [add, if_neg he, count_cons, ih]
        by_cases hother : e.1 = other
        · have hne : kind ≠ other := fun heq => he (hother.trans heq.symm)
          simp [hother, hne]
        · simp [hother]

theorem total_add (kind : TokenKind) (n : Nat) (tally : Tally) :
    (tally.add kind n).total = tally.total + n := by
  induction tally with
  | nil => simp [add]
  | cons e tally ih =>
      by_cases he : e.1 = kind
      · simp only [add, if_pos he, total_cons]
        omega
      · simp only [add, if_neg he, total_cons, ih]
        omega

theorem ofTokens_concat (ts : List Token) (t : Token) :
    ofTokens (ts ++ [t]) = (ofTokens ts).add t.kind 1 := by
  simp [ofTokens]

/-! ## Token after token -/

structure Tells (tally : Tally) (ks : List TokenKind) : Prop where
  nodup : tally.kinds.Nodup
  mem_kinds : ∀ kind, kind ∈ tally.kinds ↔ kind ∈ ks
  count_eq : ∀ kind, tally.count kind = ks.count kind
  ordered : tally.kinds.Pairwise fun kind later => ks.idxOf kind < ks.idxOf later
  total_eq : tally.total = ks.length

theorem tells_nil : Tells [] [] :=
  ⟨List.nodup_nil, by simp, by simp, .nil, rfl⟩

theorem Tells.add {tally : Tally} {ks : List TokenKind} (h : tally.Tells ks) (kind : TokenKind) :
    (tally.add kind 1).Tells (ks ++ [kind]) where
  nodup := by
    rw [kinds_add]
    split
    next => exact h.nodup
    next hnew =>
        rw [List.nodup_append]
        refine ⟨h.nodup, List.pairwise_singleton _ kind, ?_⟩
        rintro k hk _ hkind rfl
        exact hnew (List.mem_singleton.mp hkind ▸ hk)
  mem_kinds other := by
    rw [kinds_add, List.mem_append, List.mem_singleton, ← h.mem_kinds]
    split
    next hold => exact ⟨.inl, fun hmem => hmem.elim id fun heq => heq ▸ hold⟩
    next => simp
  count_eq other := by
    rw [count_add, h.count_eq, List.count_append, List.count_singleton]
    simp
  ordered := by
    have hplace : ∀ k ∈ tally.kinds, (ks ++ [kind]).idxOf k = ks.idxOf k := fun k hk =>
      List.idxOf_append_of_mem ((h.mem_kinds k).mp hk)
    have hold : tally.kinds.Pairwise fun k later =>
        (ks ++ [kind]).idxOf k < (ks ++ [kind]).idxOf later := by
      refine h.ordered.imp_of_mem ?_
      intro k later hk hlater hlt
      rwa [hplace k hk, hplace later hlater]
    rw [kinds_add]
    split
    next => exact hold
    next hnew =>
        refine List.pairwise_append.mpr ⟨hold, List.pairwise_singleton _ _, ?_⟩
        intro k hk later hlater
        obtain rfl := List.mem_singleton.mp hlater
        have hlast : (ks ++ [later]).idxOf later = ks.length := by
          rw [List.idxOf_append_of_notMem fun hmem => hnew ((h.mem_kinds later).mpr hmem)]
          simp
        rw [hplace k hk, hlast]
        exact List.idxOf_lt_length_of_mem ((h.mem_kinds k).mp hk)
  total_eq := by
    rw [total_add, h.total_eq]
    simp

theorem tells_ofTokens (ts : List Token) : (ofTokens ts).Tells (ts.map Token.kind) := by
  induction ts using List.reverseRecOn with
  | nil => exact tells_nil
  | append_singleton ts t ih =>
      rw [ofTokens_concat, List.map_append]
      exact ih.add t.kind

theorem Tells.mem_iff {tally : Tally} {ks : List TokenKind} (h : tally.Tells ks)
    {kind : TokenKind} {n : Nat} : (kind, n) ∈ tally ↔ kind ∈ ks ∧ n = ks.count kind := by
  rw [eq_map_count h.nodup, List.mem_map, ← h.mem_kinds, ← h.count_eq]
  constructor
  · rintro ⟨k, hk, heq⟩
    obtain ⟨rfl, rfl⟩ := Prod.mk.inj heq
    exact ⟨hk, rfl⟩
  · rintro ⟨hkind, rfl⟩
    exact ⟨kind, hkind, rfl⟩

/-! ## One list behind another -/

theorem kinds_ofTokens_append (a b : List Token) :
    (ofTokens (a ++ b)).kinds =
      (ofTokens a).kinds ++ (ofTokens b).kinds.filter (· ∉ (ofTokens a).kinds) := by
  induction b using List.reverseRecOn with
  | nil => simp [ofTokens]
  | append_singleton b t ih =>
      rw [← List.append_assoc, ofTokens_concat, ofTokens_concat, kinds_add, kinds_add, ih]
      by_cases ha : t.kind ∈ (ofTokens a).kinds
      · by_cases hb : t.kind ∈ (ofTokens b).kinds <;> simp [ha, hb]
      · by_cases hb : t.kind ∈ (ofTokens b).kinds <;> simp [ha, hb]

theorem ofTokens_append (a b : List Token) :
    ofTokens (a ++ b) =
      (ofTokens a).map (fun e => (e.1, e.2 + (ofTokens b).count e.1)) ++
        (ofTokens b).filter fun e => e.1 ∉ a.map Token.kind := by
  have ha := tells_ofTokens a
  have hb := tells_ofTokens b
  have hab := tells_ofTokens (a ++ b)
  have hcount : ∀ kind, (ofTokens (a ++ b)).count kind =
      (ofTokens a).count kind + (ofTokens b).count kind := by
    intro kind
    rw [hab.count_eq, ha.count_eq, hb.count_eq, List.map_append, List.count_append]
  have hold : (ofTokens a).map (fun e => (e.1, e.2 + (ofTokens b).count e.1)) =
      (ofTokens a).kinds.map fun kind => (kind, (ofTokens (a ++ b)).count kind) := by
    conv_lhs => rw [eq_map_count ha.nodup]
    simp only [List.map_map, Function.comp_def, hcount]
  have hnew : ((ofTokens b).filter fun e => e.1 ∉ a.map Token.kind) =
      ((ofTokens b).kinds.filter (· ∉ (ofTokens a).kinds)).map fun kind =>
        (kind, (ofTokens (a ++ b)).count kind) := by
    conv_lhs => rw [eq_map_count hb.nodup]
    rw [List.filter_map]
    simp only [Function.comp_def, ha.mem_kinds]
    apply List.map_congr_left
    intro kind hkind
    have hother : kind ∉ a.map Token.kind := by simpa using (List.mem_filter.mp hkind).2
    rw [hcount, ha.count_eq, List.count_eq_zero.mpr hother, Nat.zero_add]
  rw [hold, hnew, ← List.map_append, ← kinds_ofTokens_append]
  exact eq_map_count hab.nodup

end Tally

/-- The tally of a list of tokens lists each kind that occurs once, in the order in which the kinds
occur first, with the number of its tokens; the counts are positive and add up to the length of the
list. The tally of two lists one after the other is the tally of the first, with the counts of the
second added in place, and behind it what the second has of kinds that the first has not. -/
theorem tally_counts_kinds_in_order :
    (∀ ts : List Token,
      (Tally.ofTokens ts).kinds.Nodup ∧
      (∀ kind n, (kind, n) ∈ Tally.ofTokens ts ↔
        kind ∈ ts.map Token.kind ∧ n = (ts.map Token.kind).count kind) ∧
      ((Tally.ofTokens ts).kinds.Pairwise fun kind later =>
        (ts.map Token.kind).idxOf kind < (ts.map Token.kind).idxOf later) ∧
      (∀ e ∈ Tally.ofTokens ts, 0 < e.2) ∧
      (Tally.ofTokens ts).total = ts.length) ∧
    ∀ a b : List Token,
      Tally.ofTokens (a ++ b) =
        (Tally.ofTokens a).map (fun e => (e.1, e.2 + (Tally.ofTokens b).count e.1)) ++
          (Tally.ofTokens b).filter fun e => e.1 ∉ a.map Token.kind := by
  constructor
  · intro ts
    have htells := Tally.tells_ofTokens ts
    refine ⟨htells.nodup, fun kind n => htells.mem_iff, htells.ordered, ?_, ?_⟩
    · rintro ⟨kind, n⟩ hmem
      obtain ⟨hkind, rfl⟩ := htells.mem_iff.mp hmem
      exact List.count_pos_iff.mpr hkind
    · rw [htells.total_eq, List.length_map]
  · exact Tally.ofTokens_append

theorem tally_counts_kinds_in_order_interleaved :
    let a : List Token := [.name "x", .symbol ';']
    let b : List Token := [.string "s", .symbol ';', .name "y", .string "t"]
    (TokenKind.string, 2) ∈ Tally.ofTokens (a ++ b) ∧ 0 < 2 ∧
    Tally.ofTokens (a ++ b) = [(.name, 1 + 1), (.symbol, 1 + 1), (.string, 2)] := by
  intro a b
  obtain ⟨hlist, happend⟩ := tally_counts_kinds_in_order
  obtain ⟨-, hmem, -, hpos, -⟩ := hlist (a ++ b)
  have hstring : (TokenKind.string, 2) ∈ Tally.ofTokens (a ++ b) := (hmem _ _).mpr (by decide)
  exact ⟨hstring, hpos _ hstring, happend a b⟩

end StatementLexer
