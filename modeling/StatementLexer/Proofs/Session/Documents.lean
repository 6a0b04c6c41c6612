import StatementLexer.Proofs.Document.Reading
import StatementLexer.Proofs.Session.Decoding

/-! # Documents give their tokens back

A session that writes documents shows neither the names of its files nor where they stand, but the
documents tell the tokens: each document is read back to its value, the value has a record for each
token, and a record tells the token. A number without a value in a document is infinite, and there is
one such number that a lexeme can denote. Main statement: `run_json_inj`.
-/

namespace StatementLexer

/-! ## Records -/

theorem Layout.write_of_infinite (layout : Layout) {x : Binary64}
    (hx : x.isNaN = false ∧ x.isNegative = false) (hinfinite : x.isFinite = false) :
    layout.write x = "inf" := by
  simp [write, hx.1, hx.2, hinfinite]

theorem JsonValue.ofBinary64_inj {x y : Binary64} (hx : x.isNaN = false ∧ x.isNegative = false)
    (hy : y.isNaN = false ∧ y.isNegative = false) (h : ofBinary64 x = ofBinary64 y) : x = y := by
  unfold ofBinary64 at h
  cases hfinite : x.isFinite with
  | true =>
      cases hfinite' : y.isFinite with
      | true => simpa [hfinite, hfinite'] using h
      | false => simp [hfinite, hfinite'] at h
  | false =>
      cases hfinite' : y.isFinite with
      | true => simp [hfinite, hfinite'] at h
      | false =>
          apply Layout.document.write_inj hx hy
          rw [Layout.write_of_infinite _ hx hfinite, Layout.write_of_infinite _ hy hfinite']

namespace Token

theorem jsonValue_inj {t u : Token} (ht : t.Lexical) (hu : u.Lexical) (hkind : t.kind = u.kind)
    (h : t.jsonValue = u.jsonValue) : t = u := by
  cases t <;> cases u <;> try cases hkind
  · exact congrArg name (JsonValue.text.inj h)
  · exact congrArg number (JsonValue.ofBinary64_inj ht hu h)
  · exact congrArg string (JsonValue.text.inj h)
  · have hchars := congrArg String.toList (JsonValue.text.inj h)
    simp only [String.toList_singleton, List.cons.injEq, and_true] at hchars
    exact congrArg symbol hchars

theorem record_inj {t u : Token} (ht : t.Lexical) (hu : u.Lexical) (h : t.record = u.record) :
    t = u := by
  simp only [record, JsonValue.record.injEq, List.cons.injEq, Prod.mk.injEq, true_and, and_true,
    JsonValue.text.injEq] at h
  exact jsonValue_inj ht hu (TokenKind.label_inj h.1) h.2

theorem records_inj {ts us : List Token} (hts : ∀ t ∈ ts, t.Lexical) (hus : ∀ u ∈ us, u.Lexical)
    (h : ts.map record = us.map record) : ts = us := by
  induction ts generalizing us with
  | nil => exact (List.map_eq_nil_iff.mp h.symm).symm
  | cons t ts ih =>
      cases us with
      | nil => simp at h
      | cons u us =>
          obtain ⟨ht, hmore⟩ := List.forall_mem_cons.mp hts
          obtain ⟨hu, hmore'⟩ := List.forall_mem_cons.mp hus
          obtain ⟨hrecord, hrecords⟩ := List.cons.inj h
          rw [record_inj ht hu hrecord, ih hmore hmore' hrecords]

theorem Lexical.writable_jsonValue {t : Token} (h : t.Lexical) : t.jsonValue.Writable := by
  cases t with
  | number x =>
      show (JsonValue.ofBinary64 x).Writable
      unfold JsonValue.ofBinary64
      split
      next hfinite => exact .number ⟨hfinite, h.2⟩
      next => exact .null
  | _ => exact .text _

theorem Lexical.writable_record {t : Token} (h : t.Lexical) : t.record.Writable :=
  .record (by simpa using ⟨.text _, h.writable_jsonValue⟩)

end Token

theorem Tally.writable_record (tally : Tally) : tally.record.Writable := by
  refine .record fun m hm => ?_
  obtain ⟨⟨kind, n⟩, -, rfl⟩ := List.mem_map.mp hm
  exact .natural n

/-! ## Files -/

namespace FileTokens

theorem writable_document {f : FileTokens} (hf : ∀ t ∈ f.tokens, t.Lexical) (summary : Bool) :
    (f.document summary).Writable := by
  have hrecords : (JsonValue.list (f.tokens.map Token.record)).Writable := by
    refine .list fun v hv => ?_
    obtain ⟨t, ht, rfl⟩ := List.mem_map.mp hv
    exact (hf t ht).writable_record
  cases summary with
  | false => exact hrecords
  | true => exact .record (by simpa [document] using ⟨Tally.writable_record _, hrecords⟩)

theorem document_inj {f g : FileTokens} (hf : ∀ t ∈ f.tokens, t.Lexical)
    (hg : ∀ t ∈ g.tokens, t.Lexical) {summary : Bool}
    (h : f.document summary = g.document summary) : f.tokens = g.tokens := by
  apply Token.records_inj hf hg
  cases summary with
  | false => simpa [document] using h
  | true =>
      simp only [document, if_true, JsonValue.record.injEq, List.cons.injEq, Prod.mk.injEq,
        true_and, and_true, JsonValue.list.injEq] at h
      exact h.2

def documentLine (f : FileTokens) (summary : Bool) : List Char :=
  (f.document summary).pretty 0 ++ ['\n']

theorem cells_json_bytes (f : FileTokens) (summary several : Bool) :
    (f.cells .json summary several).map Cell.byte =
      Text.bytes (String.ofList (f.documentLine summary)) := by
  have htext : String.ofList (f.documentLine summary) = (f.document summary).document ++ "\n" := by
    rw [← String.toList_inj, String.toList_append, String.toList_ofList]
    simp [documentLine, JsonValue.document]
  rw [htext, Text.bytes_append]
  simp [cells, Cell.ofText, Function.comp_def]

theorem documentLine_append_inj {f g : FileTokens} (hf : ∀ t ∈ f.tokens, t.Lexical)
    (hg : ∀ t ∈ g.tokens, t.Lexical) {summary : Bool} {rest rest' : List Char}
    (h : f.documentLine summary ++ rest = g.documentLine summary ++ rest') :
    f.tokens = g.tokens ∧ rest = rest' := by
  simp only [documentLine, List.append_assoc, List.singleton_append] at h
  have hbreak : JsonValue.isNumberChar '\n' = false := by decide
  obtain ⟨hdocument, hrest⟩ := JsonValue.pretty_append_inj (writable_document hf summary)
    (writable_document hg summary) (JsonValue.endsNumber_cons hbreak rest)
    (JsonValue.endsNumber_cons hbreak rest') h
  exact ⟨document_inj hf hg hdocument, (List.cons.inj hrest).2⟩

/-- Documents one behind the other tell how many they are and the tokens of each. -/
theorem documentLines_inj {files files' : List FileTokens}
    (hfiles : ∀ f ∈ files, ∀ t ∈ f.tokens, t.Lexical)
    (hfiles' : ∀ f ∈ files', ∀ t ∈ f.tokens, t.Lexical) {summary : Bool}
    (h : files.flatMap (·.documentLine summary) = files'.flatMap (·.documentLine summary)) :
    files.map tokens = files'.map tokens := by
  induction files generalizing files' with
  | nil =>
      cases files' with
      | nil => rfl
      | cons f files' => simp [documentLine] at h
  | cons f files ih =>
      cases files' with
      | nil => simp [documentLine] at h
      | cons g files' =>
          obtain ⟨hf, hmore⟩ := List.forall_mem_cons.mp hfiles
          obtain ⟨hg, hmore'⟩ := List.forall_mem_cons.mp hfiles'
          obtain ⟨htokens, hrest⟩ := documentLine_append_inj hf hg h
          rw [List.map_cons, List.map_cons, htokens, ih hmore hmore' hrest]

end FileTokens

/-! ## Sessions -/

theorem Session.written_json {s : Session} {files : List FileTokens} (h : s.lex = .ok files)
    (hformat : s.options.format = .json) {sink : Sink} (hroom : sink.room = none) :
    (s.run sink).1.written = sink.written ++ Text.bytes (String.ofList
      (files.flatMap (·.documentLine s.options.summary))) := by
  apply written_eq h _ hroom
  intro f
  rw [hformat]
  exact f.cells_json_bytes _ _

/-- Sessions that list files as documents, and count the tokens or not, write the same only if they
found the same tokens in every file, whatever the files are called. These tokens also agree as
values: no number among them is unequal to itself. -/
theorem run_json_inj (paths paths' : List String) (summary : Bool) (shelf shelf' : Shelf)
    (s s' : Session) (hstart : Session.start ⟨paths, .json, summary⟩ shelf = .ok s)
    (hstart' : Session.start ⟨paths', .json, summary⟩ shelf' = .ok s')
    (files files' : List FileTokens) (hlex : s.lex = .ok files) (hlex' : s'.lex = .ok files')
    (sink : Sink) (hroom : sink.room = none)
    (h : (s.run sink).1.written = (s'.run sink).1.written) :
    files.map FileTokens.tokens = files'.map FileTokens.tokens ∧
      ∀ f ∈ files, ∀ t ∈ f.tokens, t.agrees t = true := by
  obtain ⟨hoptions, -⟩ := Session.start_spec hstart
  obtain ⟨hoptions', -⟩ := Session.start_spec hstart'
  obtain ⟨-, hlexical⟩ := Session.lex_spec hlex
  obtain ⟨-, hlexical'⟩ := Session.lex_spec hlex'
  constructor
  · rw [Session.written_json hlex (by rw [hoptions]) hroom,
      Session.written_json hlex' (by rw [hoptions']) hroom, hoptions, hoptions'] at h
    have htexts := String.ofList_injective (Text.bytes_inj (List.append_cancel_left h))
    exact FileTokens.documentLines_inj hlexical hlexical' htexts
  · intro f hf t ht
    exact (hlexical f hf t ht).agrees_self

theorem run_json_inj_other_names :
    let s : Session := ⟨⟨["a.math", "b.math"], .json, true⟩,
      [⟨"a.math", "\"\\\x01\x7b\"=.5;"⟩, ⟨"b.math", ""⟩]⟩
    let s' : Session := ⟨⟨["c.math", "d.math"], .json, true⟩,
      [⟨"c.math", "\"\\\x01\x7b\" = 0.50 ;\n"⟩, ⟨"d.math", "\n"⟩]⟩
    (s.run Sink.unlimited).1.written = (s'.run Sink.unlimited).1.written ∧
    ∃ files files', s.lex = .ok files ∧ s'.lex = .ok files' ∧ files ≠ files' ∧
      files.map FileTokens.tokens = files'.map FileTokens.tokens ∧
      ∀ f ∈ files, ∀ t ∈ f.tokens, t.agrees t = true := by
  intro s s'
  let shelf (path text text' : String) : Shelf := fun p => if p = path then .ok text else .ok text'
  let tokens : List Token :=
    [.string "\\\x01\x7b", .symbol '=', .number ⟨0x3FE0000000000000⟩, .symbol ';']
  have hlex : s.lex = .ok [⟨"a.math", tokens⟩, ⟨"b.math", []⟩] := by decide +kernel
  have hlex' : s'.lex = .ok [⟨"c.math", tokens⟩, ⟨"d.math", []⟩] := by decide +kernel
  have hwritten : (s.run Sink.unlimited).1.written = (s'.run Sink.unlimited).1.written := by
    rw [Session.written_json hlex rfl rfl, Session.written_json hlex' rfl rfl]
    rfl
  obtain ⟨hsame, hagrees⟩ := run_json_inj ["a.math", "b.math"] ["c.math", "d.math"] true
    (shelf "a.math" "\"\\\x01\x7b\"=.5;" "")
    (shelf "c.math" "\"\\\x01\x7b\" = 0.50 ;\n" "\n") s s' rfl rfl _ _ hlex hlex'
    Sink.unlimited rfl hwritten
  exact ⟨hwritten, _, _, hlex, hlex', by decide, hsame, hagrees⟩

end StatementLexer
