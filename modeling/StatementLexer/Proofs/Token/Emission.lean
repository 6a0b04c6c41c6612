import StatementLexer.Proofs.Decimal.Rounding
import StatementLexer.Proofs.Token.Pull

/-! # The tokens that a reader gives

Classification by itself would take spaces into a name and quotes into a string; it is the shape of
lexemes that keeps them out. Whatever was asked of a reader before, the lexeme it classifies next is
one of its text, so the token has the shape of a lexeme. Main statement: `nextToken_lexical`.
-/

namespace StatementLexer

/-- The tokens that lexemes denote. A number may be infinite, for a numeral can be too large. -/
def Token.Lexical : Token → Prop
  | name t => (∃ c, t.toList.head? = some c ∧ Text.isLetter c = true) ∧
      ∀ c ∈ t.toList, Text.isSeparator c = false ∧ isSymbol c = false ∧ c ≠ '"'
  | number x => x.isNaN = false ∧ x.isNegative = false
  | string t => '"' ∉ t.toList ∧ '\n' ∉ t.toList
  | symbol c => c ∈ symbols

theorem Lexeme.Denotes.lexical {l : Lexeme} {t : Token} (h : l.Denotes t) : t.Lexical := by
  cases h with
  | symbol c hc _ =>
      show c ∈ symbols
      simpa [isSymbol] using hc
  | quoted body hquote hbreak _ =>
      show '"' ∉ (String.ofList body).toList ∧ '\n' ∉ (String.ofList body).toList
      rw [String.toList_ofList]
      exact ⟨hquote, hbreak⟩
  | number _ _ => exact Binary64.ofRatio_sound _ _
  | name hrun hletter =>
      refine ⟨hletter, fun c hc => ?_⟩
      obtain ⟨hquote, hsep, hsymbol⟩ := isOrdinary_iff.mp (hrun.2 c hc)
      exact ⟨hsep, hsymbol, hquote⟩

theorem lexical_of_tokenize {source : String} {ts : List Token} (h : tokenize source = .ok ts) :
    ∀ t ∈ ts, t.Lexical := by
  obtain ⟨ls, hls⟩ := exists_split_of_tokenize h
  have hdenotes := ((tokenize_iff_forall₂ hls).mp h).1
  clear h hls
  induction hdenotes with
  | nil => simp
  | cons ht _ ih => exact List.forall_mem_cons.mpr ⟨ht.lexical, ih⟩

/-! ## The lexemes of a desk -/

theorem Reader.lexemes_next (r : Reader) : r.next.2.lexemes = r.lexemes := by
  cases h : r.lexemes[r.current]? with
  | none => rw [next_of_none h]
  | some l => rw [next_of_some h]

theorem Reader.lexemes_nth (r : Reader) (n : Nat) : (r.nth n).2.lexemes = r.lexemes := by
  induction n generalizing r with
  | zero => exact r.lexemes_next
  | succ n ih =>
      have hnext := r.lexemes_next
      unfold nth
      split
      next s heq =>
          rw [heq] at hnext
          exact hnext
      next item s heq =>
          rw [heq] at hnext
          exact (ih s).trans hnext

/-- The reader and all its copies hold the same lexemes. -/
structure Desk.Holds (lexemes : List Lexeme) (d : Desk) : Prop where
  reader : d.reader.lexemes = lexemes
  saved : ∀ r ∈ d.saved, r.lexemes = lexemes

namespace Desk.Holds

variable {lexemes : List Lexeme} {d : Desk}

theorem step (h : d.Holds lexemes) (op : Operation) : (d.step op).2.Holds lexemes := by
  obtain ⟨hreader, hsaved⟩ := h
  cases op with
  | nextToken =>
      refine ⟨?_, hsaved⟩
      simp only [Desk.step, Reader.nextToken_eq]
      exact d.reader.lexemes_next.trans hreader
  | next => exact ⟨d.reader.lexemes_next.trans hreader, hsaved⟩
  | nth n => exact ⟨(d.reader.lexemes_nth n).trans hreader, hsaved⟩
  | collect => exact ⟨hreader, hsaved⟩
  | count => exact ⟨hreader, hsaved⟩
  | last => exact ⟨hreader, hsaved⟩
  | remaining => exact ⟨hreader, hsaved⟩
  | sizeBounds => exact ⟨hreader, hsaved⟩
  | source => exact ⟨hreader, hsaved⟩
  | save => exact ⟨hreader, List.forall_mem_cons.mpr ⟨hreader, hsaved⟩⟩
  | restore =>
      obtain ⟨r, copies⟩ := d
      cases copies with
      | nil => exact ⟨hreader, hsaved⟩
      | cons top rest =>
          obtain ⟨htop, hrest⟩ := List.forall_mem_cons.mp hsaved
          exact ⟨htop, hrest⟩

theorem run (h : d.Holds lexemes) (ops : List Operation) : (d.run ops).2.Holds lexemes := by
  induction ops generalizing d with
  | nil => exact h
  | cons op ops ih =>
      rw [Desk.run_cons]
      exact ih (h.step op)

end Desk.Holds

/-- A token is given for the next lexeme alone. -/
theorem Reader.nextToken_spec {r : Reader} {t : Token} (h : r.nextToken.1 = .ok (some t)) :
    ∃ l, r.unread.head? = some l ∧ l.classify = .ok t := by
  unfold nextToken at h
  split at h
  next => simp at h
  next l hl =>
      refine ⟨l, r.head?_unread.trans hl, ?_⟩
      cases hclassify : l.classify with
      | error e => simp [hclassify, Except.map] at h
      | ok u => simpa [hclassify, Except.map] using h

/-- After any operations on a reader and its copies, faults among them, the next token is one that a
lexeme of the text denotes: a symbol, a name or a string with no character that would end it, or a
number that its numeral tells. -/
theorem nextToken_lexical {source : String} {r : Reader} (h : Reader.ofSource source = .ok r)
    (ops : List Operation) {t : Token}
    (ht : (Desk.run ⟨r, []⟩ ops).2.reader.nextToken.1 = .ok (some t)) :
    t.Lexical ∧ (∀ text, t = .name text → '\n' ∉ text.toList) ∧
    ∃ l ∈ r.unread, (Desk.run ⟨r, []⟩ ops).2.reader.unread.head? = some l ∧
      ∀ x, t = .number x → l.IsNumeric ∧ x = Numeral.value l.text.toList := by
  have hstart : Desk.Holds r.unread ⟨r, []⟩ := ⟨congrArg Reader.lexemes (eq_of_ofSource h), by simp⟩
  obtain ⟨l, hhead, hclassify⟩ := Reader.nextToken_spec ht
  have hmem : l ∈ r.unread := by
    rw [← (hstart.run ops).reader]
    exact List.mem_of_mem_drop (List.mem_of_head? hhead)
  have hdenotes : l.Denotes t := ((classify_eq_ok_iff (exists_shape_of_mem h hmem)).mp hclassify).1
  have hlexical := hdenotes.lexical
  refine ⟨hlexical, ?_, l, hmem, hhead, ?_⟩
  · rintro text rfl hbreak
    have hsep := (hlexical.2 '\n' hbreak).1
    exact absurd hsep (by decide)
  · rintro x rfl
    cases hdenotes with
    | number hrun hnumeric => exact ⟨hnumeric, rfl⟩

theorem nextToken_lexical_behind_faults :
    ∃ r, Reader.ofSource "_ 5.0.1 .5;" = .ok r ∧
      (Desk.run ⟨r, []⟩ [.nextToken, .nextToken]).2.reader.nextToken.1 =
        .ok (some (.number ⟨0x3FE0000000000000⟩)) ∧
      ∃ l ∈ r.unread, l.IsNumeric ∧ ⟨0x3FE0000000000000⟩ = Numeral.value l.text.toList := by
  let lexemes : List Lexeme := [⟨"_", ⟨0, 1, 1, 1⟩⟩, ⟨"5.0.1", ⟨2, 7, 1, 3⟩⟩,
    ⟨".5", ⟨8, 10, 1, 9⟩⟩, ⟨";", ⟨10, 11, 1, 11⟩⟩]
  have hsource : Reader.ofSource "_ 5.0.1 .5;" = .ok ⟨"_ 5.0.1 .5;", lexemes, 0⟩ := by rfl
  have htoken : (Desk.run ⟨⟨"_ 5.0.1 .5;", lexemes, 0⟩, []⟩
      [.nextToken, .nextToken]).2.reader.nextToken.1 =
        .ok (some (.number ⟨0x3FE0000000000000⟩)) := by
    decide +kernel
  obtain ⟨-, -, l, hmem, -, hnumber⟩ := nextToken_lexical hsource _ htoken
  exact ⟨_, hsource, htoken, l, hmem, hnumber _ rfl⟩

end StatementLexer
