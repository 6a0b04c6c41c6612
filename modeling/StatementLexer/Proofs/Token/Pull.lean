import Mathlib.Data.List.Forall2
import StatementLexer.Proofs.Token.Language
import StatementLexer.Token.Desk

/-! # Reading as a bookmark in a list

What the lexemes of a text are classified to is a fixed list of results. A reader of the text is a
bookmark in this list, and so is each copy of it: every run of operations gets the answers that are
read off the list, and no bookmark leaves it. Main statement: `desk_refines_bookmark`.
-/

namespace StatementLexer

/-- An index into a list of results, and the indices put aside, the last one first. -/
structure Bookmark where
  index : Nat
  saved : List Nat
  deriving DecidableEq, Repr

namespace Bookmark

section

variable (source : String) (results : List Reader.Item)

/-- Behind one more result; at the end there is none, and the bookmark stays. -/
def advance (b : Bookmark) : Bookmark :=
  if b.index < results.length then { b with index := b.index + 1 } else b

/-- The index behind the first fault from `i` on, or the end of the list. -/
def behindFault (i : Nat) : Nat :=
  match (results.drop i).findIdx? fun item => !item.isOk with
  | none => results.length
  | some k => i + k + 1

def step (b : Bookmark) : Operation → Answer × Bookmark
  | .nextToken => (.token (results[b.index]?.mapM id), advance results b)
  | .next => (.item results[b.index]?, advance results b)
  | .nth n =>
      (.item results[b.index + n]?, { b with index := min (b.index + n + 1) results.length })
  | .collect =>
      (.tokens ((results.drop b.index).mapM id), { b with index := behindFault results b.index })
  | .count => (.number (results.length - b.index), { b with index := results.length })
  | .last => (.item (results.drop b.index).getLast?, { b with index := results.length })
  | .remaining => (.number (results.length - b.index), b)
  | .sizeBounds => (.bounds 0 (some (results.length - b.index)), b)
  | .source => (.text source, b)
  | .save => (.number (b.saved.length + 1), { b with saved := b.index :: b.saved })
  | .restore =>
      match b.saved with
      | [] => (.nothing, b)
      | top :: rest => (.number (results.length - top), ⟨top, rest⟩)

def run (b : Bookmark) : List Operation → List Answer × Bookmark
  | [] => ([], b)
  | op :: ops =>
      let (answer, next) := step source results b op
      let (answers, final) := run next ops
      (answer :: answers, final)

end

@[simp] theorem run_cons (source : String) (results : List Reader.Item) (b : Bookmark)
    (op : Operation) (ops : List Operation) :
    run source results b (op :: ops) =
      ((step source results b op).1 :: (run source results (step source results b op).2 ops).1,
        (run source results (step source results b op).2 ops).2) := rfl

theorem advance_eq {results : List Reader.Item} {b : Bookmark} (h : b.index ≤ results.length) :
    advance results b = { b with index := min (b.index + 1) results.length } := by
  unfold advance
  split
  · rw [Nat.min_eq_left (by omega)]
  · rw [Nat.min_eq_right (by omega), show results.length = b.index by omega]

end Bookmark

namespace Reader

/-! ## The operations of a reader -/

theorem head?_unread (r : Reader) : r.unread.head? = r.lexemes[r.current]? :=
  List.head?_drop

theorem next_of_none {r : Reader} (h : r.lexemes[r.current]? = none) : r.next = (none, r) := by
  simp [next, nextToken, h]

theorem next_of_some {r : Reader} {l : Lexeme} (h : r.lexemes[r.current]? = some l) :
    r.next = (some l.classify, { r with current := r.current + 1 }) := by
  cases hl : l.classify <;> simp [next, nextToken, h, hl, Except.map]

theorem nextToken_eq (r : Reader) : r.nextToken = (r.next.1.mapM id, r.next.2) := by
  cases h : r.lexemes[r.current]? with
  | none =>
      rw [next_of_none h, nextToken, h]
      rfl
  | some l =>
      rw [next_of_some h, nextToken, h]
      cases hl : l.classify <;> simp [hl, Except.map]

/-- Collecting answers with all tokens or the first fault, and stops behind that. -/
theorem collectFrom_eq (ls : List Lexeme) :
    collectFrom ls = ((ls.map Lexeme.classify).mapM id,
      match (ls.map Lexeme.classify).findIdx? fun item => !item.isOk with
      | none => ls.length
      | some k => k + 1) := by
  induction ls with
  | nil => rfl
  | cons l ls ih =>
      cases hl : l.classify with
      | error e =>
          rw [List.map_cons, List.mapM_cons, List.findIdx?_cons, hl, collectFrom_cons_error hl]
          rfl
      | ok t =>
          rw [List.map_cons, List.mapM_cons, List.findIdx?_cons, hl, collectFrom_cons_ok hl, ih]
          cases (ls.map Lexeme.classify).mapM id <;>
            cases (ls.map Lexeme.classify).findIdx? fun item => !item.isOk <;> rfl

end Reader

/-- The reader holds the lexemes of the results and stands at index `i`, which is none behind their
end. -/
structure Reader.Stands (source : String) (results : List Reader.Item) (r : Reader) (i : Nat) :
    Prop where
  text : r.source = source
  classified : r.lexemes.map Lexeme.classify = results
  index : r.current = i
  le : i ≤ results.length

namespace Reader.Stands

variable {source : String} {results : List Reader.Item} {r : Reader} {i : Nat}

theorem ahead (h : r.Stands source results i) :
    r.unread.map Lexeme.classify = results.drop i := by
  rw [Reader.unread, List.map_drop, h.classified, h.index]

theorem length_unread (h : r.Stands source results i) : r.unread.length = results.length - i := by
  have hlength := congrArg List.length h.ahead
  rwa [List.length_map, List.length_drop] at hlength

theorem remaining_eq (h : r.Stands source results i) : r.remaining = results.length - i := by
  rw [Reader.remaining, ← h.classified, h.index, List.length_map]

theorem current_le (h : r.Stands source results i) : r.current ≤ r.lexemes.length := by
  have hle := h.le
  rwa [← h.index, ← h.classified, List.length_map] at hle

theorem skip (h : r.Stands source results i) {n : Nat} (hn : i + n ≤ results.length) :
    Stands source results (r.skip n) (i + n) :=
  ⟨h.text, h.classified, congrArg (· + n) h.index, hn⟩

theorem exhaust (h : r.Stands source results i) :
    Stands source results (r.skip r.unread.length) results.length := by
  have hend : i + r.unread.length = results.length := by
    rw [h.length_unread]
    exact Nat.add_sub_cancel' h.le
  have hskip := h.skip (Nat.le_of_eq hend)
  rwa [hend] at hskip

theorem next (h : r.Stands source results i) :
    r.next.1 = results[i]? ∧ Stands source results r.next.2 (min (i + 1) results.length) := by
  have hitem : results[i]? = r.lexemes[r.current]?.map Lexeme.classify := by
    rw [← h.classified, List.getElem?_map, h.index]
  cases hl : r.lexemes[r.current]? with
  | none =>
      rw [hl] at hitem
      have hend : min (i + 1) results.length = i := by
        have hle := List.getElem?_eq_none_iff.mp hitem
        have := h.le
        omega
      rw [next_of_none hl, hitem, hend]
      exact ⟨rfl, h⟩
  | some l =>
      rw [hl] at hitem
      have hin := (List.getElem?_eq_some_iff.mp hitem).1
      rw [next_of_some hl, hitem, Nat.min_eq_left hin]
      exact ⟨rfl, h.skip hin⟩

theorem nth (h : r.Stands source results i) (n : Nat) :
    (r.nth n).1 = results[i + n]? ∧
      Stands source results (r.nth n).2 (min (i + n + 1) results.length) := by
  induction n generalizing r i with
  | zero => exact h.next
  | succ n ih =>
      obtain ⟨hitem, hstands⟩ := h.next
      unfold Reader.nth
      split
      next s hnext =>
          rw [hnext] at hitem hstands
          have hout := List.getElem?_eq_none_iff.mp hitem.symm
          have hindex : min (i + 1) results.length = min (i + (n + 1) + 1) results.length := by
            omega
          rw [hindex] at hstands
          exact ⟨(List.getElem?_eq_none (by omega)).symm, hstands⟩
      next item s hnext =>
          rw [hnext] at hitem hstands
          have hin := (List.getElem?_eq_some_iff.mp hitem.symm).1
          rw [Nat.min_eq_left hin] at hstands
          rw [show i + (n + 1) = i + 1 + n by omega]
          exact ih hstands

theorem last (h : r.Stands source results i) :
    r.last.1 = (results.drop i).getLast? ∧ Stands source results r.last.2 results.length := by
  refine ⟨?_, h.exhaust⟩
  show r.unread.getLast?.map Lexeme.classify = _
  rw [← List.getLast?_map, h.ahead]

theorem collect (h : r.Stands source results i) :
    r.collect.1 = (results.drop i).mapM id ∧
      Stands source results r.collect.2 (Bookmark.behindFault results i) := by
  unfold Reader.collect Bookmark.behindFault
  rw [collectFrom_eq, h.ahead]
  refine ⟨rfl, ?_⟩
  cases hfault : (results.drop i).findIdx? fun item => !item.isOk with
  | none => exact h.exhaust
  | some k =>
      have hlt : k < (results.drop i).length := (List.findIdx?_eq_some_iff_getElem.mp hfault).1
      rw [List.length_drop] at hlt
      exact h.skip (n := k + 1) (by omega)

end Reader.Stands

/-! ## Runs -/

/-- The reader and its copies stand at the indices of the bookmark. -/
structure Desk.Follows (source : String) (results : List Reader.Item) (d : Desk) (b : Bookmark) :
    Prop where
  reader : d.reader.Stands source results b.index
  saved : List.Forall₂ (Reader.Stands source results) d.saved b.saved

namespace Desk.Follows

variable {source : String} {results : List Reader.Item} {d : Desk} {b : Bookmark}

theorem step (h : d.Follows source results b) (op : Operation) :
    (d.step op).1 = (Bookmark.step source results b op).1 ∧
      (d.step op).2.Follows source results (Bookmark.step source results b op).2 := by
  obtain ⟨hreader, hsaved⟩ := h
  cases op with
  | nextToken =>
      obtain ⟨hitem, hstands⟩ := hreader.next
      simp only [Desk.step, Bookmark.step, Bookmark.advance_eq hreader.le, Reader.nextToken_eq, hitem]
      exact ⟨trivial, hstands, hsaved⟩
  | next =>
      obtain ⟨hitem, hstands⟩ := hreader.next
      simp only [Desk.step, Bookmark.step, Bookmark.advance_eq hreader.le, hitem]
      exact ⟨trivial, hstands, hsaved⟩
  | nth n =>
      obtain ⟨hitem, hstands⟩ := hreader.nth n
      exact ⟨congrArg Answer.item hitem, hstands, hsaved⟩
  | collect =>
      obtain ⟨htokens, hstands⟩ := hreader.collect
      exact ⟨congrArg Answer.tokens htokens, hstands, hsaved⟩
  | count => exact ⟨congrArg Answer.number hreader.length_unread, hreader.exhaust, hsaved⟩
  | last =>
      obtain ⟨hitem, hstands⟩ := hreader.last
      exact ⟨congrArg Answer.item hitem, hstands, hsaved⟩
  | remaining => exact ⟨congrArg Answer.number hreader.remaining_eq, hreader, hsaved⟩
  | sizeBounds =>
      have hbounds : d.reader.sizeBounds = (0, some (results.length - b.index)) := by
        rw [Reader.sizeBounds, hreader.remaining_eq]
      simp only [Desk.step, Bookmark.step, hbounds]
      exact ⟨trivial, hreader, hsaved⟩
  | source => exact ⟨congrArg Answer.text hreader.text, hreader, hsaved⟩
  | save =>
      have hheight : d.saved.length = b.saved.length := hsaved.length_eq
      simp only [Desk.step, Bookmark.step, hheight]
      exact ⟨trivial, hreader, .cons hreader hsaved⟩
  | restore =>
      obtain ⟨r, copies⟩ := d
      obtain ⟨i, indices⟩ := b
      cases hsaved with
      | nil => exact ⟨rfl, hreader, .nil⟩
      | cons htop hrest => exact ⟨congrArg Answer.number htop.remaining_eq, htop, hrest⟩

theorem run (h : d.Follows source results b) (ops : List Operation) :
    (d.run ops).1 = (Bookmark.run source results b ops).1 ∧
      (d.run ops).2.Follows source results (Bookmark.run source results b ops).2 := by
  induction ops generalizing d b with
  | nil => exact ⟨rfl, h⟩
  | cons op ops ih =>
      obtain ⟨hanswer, hnext⟩ := h.step op
      obtain ⟨hanswers, hfinal⟩ := ih hnext
      rw [Desk.run_cons, Bookmark.run_cons, hanswer, hanswers]
      exact ⟨rfl, hfinal⟩

theorem saved_le (h : d.Follows source results b) : ∀ i ∈ b.saved, i ≤ results.length := by
  have hle : List.Forall₂ (fun i _ => i ≤ results.length ∧ True) b.saved d.saved :=
    h.saved.flip.imp fun _ _ hstands => ⟨hstands.le, trivial⟩
  exact ((List.forall₂_and_left _ _).mp hle).1

theorem current_le (h : d.Follows source results b) :
    ∀ r ∈ d.reader :: d.saved, r.current ≤ r.lexemes.length := by
  have hsaved : List.Forall₂ (fun r i => r.current ≤ r.lexemes.length ∧
      Reader.Stands source results r i) d.saved b.saved :=
    h.saved.imp fun _ _ hstands => ⟨hstands.current_le, hstands⟩
  exact List.forall_mem_cons.mpr
    ⟨h.reader.current_le, ((List.forall₂_and_left _ _).mp hsaved).1⟩

end Desk.Follows

/-- The items that a reader still gives, asked for one by one until there is none. -/
inductive Reader.Yields : Reader → List Reader.Item → Prop where
  | done {r : Reader} : r.next = (none, r) → Yields r []
  | more {r s : Reader} {item : Reader.Item} {items : List Reader.Item} :
      r.next = (some item, s) → Yields s items → Yields r (item :: items)

theorem Reader.yields_unread (r : Reader) : r.Yields (r.unread.map Lexeme.classify) := by
  induction hunread : r.unread generalizing r with
  | nil =>
      have hnone : r.lexemes[r.current]? = none := by
        rw [← head?_unread, hunread, List.head?_nil]
      exact .done (next_of_none hnone)
  | cons l rest ih =>
      have hsome : r.lexemes[r.current]? = some l := by
        rw [← head?_unread, hunread, List.head?_cons]
      have hrest : (r.skip 1).unread = rest := by
        rw [unread, skip, ← List.drop_drop, ← unread, hunread, List.drop_succ_cons, List.drop_zero]
      exact .more (next_of_some hsome) (ih _ hrest)

theorem Reader.Stands.yields {source : String} {results : List Reader.Item} {r : Reader} {i : Nat}
    (h : r.Stands source results i) : r.Yields (results.drop i) := by
  rw [← h.ahead]
  exact r.yields_unread

/-- Operations among which each copy put aside is taken up again, and no others. -/
inductive Bracketed : List Operation → Prop where
  | nil : Bracketed []
  | cons {op : Operation} {ops : List Operation} : op ≠ .save → op ≠ .restore → Bracketed ops →
      Bracketed (op :: ops)
  | pair {inner ops : List Operation} : Bracketed inner → Bracketed ops →
      Bracketed (.save :: (inner ++ .restore :: ops))

namespace Desk

theorem step_restore {d : Desk} {top : Reader} {rest : List Reader} (h : d.saved = top :: rest) :
    (d.step .restore).2 = ⟨top, rest⟩ := by
  simp [step, h]

theorem saved_step (d : Desk) {op : Operation} (hsave : op ≠ .save) (hrestore : op ≠ .restore) :
    (d.step op).2.saved = d.saved := by
  cases op with
  | save => exact absurd rfl hsave
  | restore => exact absurd rfl hrestore
  | _ => rfl

theorem saved_run_bracketed {ops : List Operation} (h : Bracketed ops) (d : Desk) :
    (d.run ops).2.saved = d.saved := by
  induction h generalizing d with
  | nil => rfl
  | cons hsave hrestore _ ih => rw [run_cons, ih, saved_step d hsave hrestore]
  | pair _ _ hinner hops => rw [run_cons, run_append, run_cons, step_restore (hinner _), hops]

/-- Whatever the reader does in between, its copy takes up where it was made. -/
theorem run_save_restore {ops : List Operation} (h : Bracketed ops) (d : Desk) :
    (d.run (.save :: (ops ++ [.restore]))).2 = d := by
  rw [run_cons, run_append, run_cons, run_nil, step_restore (saved_run_bracketed h _)]

end Desk

theorem Desk.follows_of_ofSource {source : String} {r : Reader}
    (h : Reader.ofSource source = .ok r) :
    Follows source (r.unread.map Lexeme.classify) ⟨r, []⟩ ⟨0, []⟩ := by
  have hr := eq_of_ofSource h
  refine ⟨⟨congrArg Reader.source hr, ?_, congrArg Reader.current hr, Nat.zero_le _⟩, .nil⟩
  exact congrArg (List.map Lexeme.classify) (congrArg Reader.lexemes hr)

/-- Every run of operations on a new reader gets the answers of a bookmark in the list of what the
lexemes are classified to, and stands at its index. No index leaves the list, what is left of it are
the items that the reader still gives, the bounds enclose their number, and a copy goes on where it
was made. -/
theorem desk_refines_bookmark {source : String} {r : Reader} (h : Reader.ofSource source = .ok r)
    (ops : List Operation) :
    let results := r.unread.map Lexeme.classify
    let run := Desk.run ⟨r, []⟩ ops
    let reference := Bookmark.run source results ⟨0, []⟩ ops
    let left := results.drop reference.2.index
    split source = .ok r.unread ∧ run.1 = reference.1 ∧
    run.2.reader.current = reference.2.index ∧
    run.2.reader.remaining + reference.2.index = results.length ∧
    (∀ i ∈ reference.2.saved, i ≤ results.length) ∧
    run.2.reader.Yields left ∧ run.2.reader.sizeBounds.1 ≤ left.length ∧
    (∀ upper ∈ run.2.reader.sizeBounds.2, left.length ≤ upper) ∧
    ∀ inner, Bracketed inner → (run.2.run (.save :: (inner ++ [.restore]))).2 = run.2 := by
  intro results run reference left
  obtain ⟨hanswers, hfollows⟩ := (Desk.follows_of_ofSource h).run ops
  have hreader := hfollows.reader
  have hle : reference.2.index ≤ results.length := hreader.le
  have hremaining : run.2.reader.remaining = results.length - reference.2.index :=
    hreader.remaining_eq
  have hleft : left.length = run.2.reader.remaining := by
    rw [hremaining, List.length_drop]
  refine ⟨ofSource_spec h, hanswers, hreader.index, ?_, hfollows.saved_le, hreader.yields,
    Nat.zero_le _, ?_, ?_⟩
  · omega
  · intro upper hupper
    obtain rfl : run.2.reader.remaining = upper := Option.some.inj hupper
    exact Nat.le_of_eq hleft
  · intro inner hinner
    exact Desk.run_save_restore hinner run.2

theorem desk_refines_bookmark_behind_fault :
    ∃ r, Reader.ofSource "x 5.0.1 y;" = .ok r ∧
      (Desk.run ⟨r, []⟩ [.save, .collect, .remaining, .nth 1, .nextToken, .restore, .nth 9]).1 =
        [.number 1, .tokens (.error (.invalidToken "5.0.1" ⟨2, 7, 1, 3⟩)), .number 2,
          .item (some (.ok (.symbol ';'))), .token (.ok none), .number 4, .item none] := by
  let lexemes : List Lexeme := [⟨"x", ⟨0, 1, 1, 1⟩⟩, ⟨"5.0.1", ⟨2, 7, 1, 3⟩⟩,
    ⟨"y", ⟨8, 9, 1, 9⟩⟩, ⟨";", ⟨9, 10, 1, 10⟩⟩]
  have hsource : Reader.ofSource "x 5.0.1 y;" = .ok ⟨"x 5.0.1 y;", lexemes, 0⟩ := by rfl
  have hresults : (Reader.unread ⟨"x 5.0.1 y;", lexemes, 0⟩).map Lexeme.classify =
      [.ok (.name "x"), .error (.invalidToken "5.0.1" ⟨2, 7, 1, 3⟩), .ok (.name "y"),
        .ok (.symbol ';')] := by
    decide +kernel
  refine ⟨_, hsource, ?_⟩
  rw [(desk_refines_bookmark hsource _).2.1, hresults]
  rfl

end StatementLexer
