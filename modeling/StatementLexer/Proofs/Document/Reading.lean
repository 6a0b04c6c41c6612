import StatementLexer.Document.Json
import StatementLexer.Proofs.Decimal.Distinct

/-! # Documents read back

A document can be read in one way only. A string ends at its first quote that is not escaped, a
number at the first character that no number has, and a bracket behind the first row that no comma
follows; what a value holds does not matter to what stands around it. Main statement:
`pretty_append_inj`.
-/

namespace StatementLexer

namespace JsonValue

/-! ## Strings -/

/-- The characters that are written as a backslash and a letter. -/
def lettered : List Char := ['"', '\\', '\x08', '\t', '\n', '\x0C', '\r']

def ofLetter : Char → Char
  | 'b' => '\x08'
  | 't' => '\t'
  | 'n' => '\n'
  | 'f' => '\x0C'
  | 'r' => '\r'
  | c => c

def hexValue (c : Char) : Nat :=
  ((List.range 16).map Nat.digitChar).idxOf c

/-- The first character of an escaped text, and the text behind it. -/
def unescape : List Char → Option (Char × List Char)
  | [] => none
  | '\\' :: 'u' :: _ :: _ :: high :: low :: rest =>
      some (Char.ofNat (16 * hexValue high + hexValue low), rest)
  | '\\' :: letter :: rest => some (ofLetter letter, rest)
  | c :: rest => some (c, rest)

theorem hexValue_digitChar {n : Nat} (h : n < 16) : hexValue (Nat.digitChar n) = n := by
  have hall : ∀ n < 16, hexValue (Nat.digitChar n) = n := by decide
  exact hall n h

theorem escape_of_not_lettered {c : Char} (h : c ∉ lettered) :
    escape c = if c.toNat < 0x20 then
      ['\\', 'u', '0', '0', Nat.digitChar (c.toNat / 16), Nat.digitChar (c.toNat % 16)]
      else [c] := by
  simp only [lettered, List.mem_cons, List.not_mem_nil, or_false, not_or] at h
  simp [escape, h]

theorem unescape_of_ne_backslash {c : Char} (h : c ≠ '\\') (rest : List Char) :
    unescape (c :: rest) = some (c, rest) := by
  unfold unescape
  split <;> simp_all

theorem unescape_escape (c : Char) (rest : List Char) :
    unescape (escape c ++ rest) = some (c, rest) := by
  by_cases hlettered : c ∈ lettered
  · have hall : ∀ d ∈ lettered, unescape (escape d ++ rest) = some (d, rest) := by
      simp only [lettered, List.forall_mem_cons, List.not_mem_nil, false_imp_iff, implies_true]
      exact ⟨rfl, rfl, rfl, rfl, rfl, rfl, rfl, trivial⟩
    exact hall c hlettered
  · rw [escape_of_not_lettered hlettered]
    split
    next hcontrol =>
        have hhigh := hexValue_digitChar (n := c.toNat / 16) (by omega)
        have hlow := hexValue_digitChar (n := c.toNat % 16) (by omega)
        have hnumber : 16 * (c.toNat / 16) + c.toNat % 16 = c.toNat := by omega
        simp only [List.cons_append, List.nil_append, unescape, hhigh, hlow, hnumber,
          Char.ofNat_toNat]
    next =>
        have hbackslash : c ≠ '\\' := by
          rintro rfl
          exact hlettered (by decide)
        exact unescape_of_ne_backslash hbackslash rest

/-- A quote inside a string is never seen as the one that ends it. -/
theorem escape_append_ne_quote (c : Char) (rest rest' : List Char) :
    escape c ++ rest ≠ '"' :: rest' := by
  intro h
  have hread := unescape_escape c rest
  rw [h, unescape_of_ne_backslash (by decide)] at hread
  obtain rfl : '"' = c := (Prod.mk.inj (Option.some.inj hread)).1
  cases h

theorem flatMap_escape_append_inj {cs ds : List Char} {rest rest' : List Char}
    (h : cs.flatMap escape ++ '"' :: rest = ds.flatMap escape ++ '"' :: rest') :
    cs = ds ∧ rest = rest' := by
  induction cs generalizing ds with
  | nil =>
      cases ds with
      | nil => exact ⟨rfl, (List.cons.inj h).2⟩
      | cons d ds =>
          rw [List.flatMap_cons, List.append_assoc] at h
          exact absurd h.symm (escape_append_ne_quote d _ _)
  | cons c cs ih =>
      rw [List.flatMap_cons, List.append_assoc] at h
      cases ds with
      | nil => exact absurd h (escape_append_ne_quote c _ _)
      | cons d ds =>
          rw [List.flatMap_cons, List.append_assoc] at h
          have hread := congrArg unescape h
          rw [unescape_escape, unescape_escape] at hread
          obtain ⟨rfl, hmore⟩ := Prod.mk.inj (Option.some.inj hread)
          obtain ⟨rfl, rfl⟩ := ih hmore
          exact ⟨rfl, rfl⟩

theorem quoted_append_inj {s t : String} {rest rest' : List Char}
    (h : quoted s ++ rest = quoted t ++ rest') : s = t ∧ rest = rest' := by
  simp only [quoted, List.cons_append, List.append_assoc, List.cons.injEq, true_and,
    List.nil_append] at h
  obtain ⟨hchars, rfl⟩ := flatMap_escape_append_inj h
  exact ⟨String.toList_inj.mp hchars, rfl⟩

/-! ## Numbers -/

def isNumberChar (c : Char) : Bool :=
  c.isDigit || c ∈ ['.', 'e', '+', '-']

/-- A text that does not go on with a number. -/
def EndsNumber (cs : List Char) : Prop :=
  ∀ c, cs.head? = some c → isNumberChar c = false

theorem endsNumber_cons {c : Char} (h : isNumberChar c = false) (cs : List Char) :
    EndsNumber (c :: cs) := by
  intro d hd
  obtain rfl : c = d := by simpa using hd
  exact h

def IsNumber (x : Binary64) : Prop :=
  x.isFinite = true ∧ x.isNegative = false

theorem IsNumber.sound {x : Binary64} (h : IsNumber x) :
    x.isNaN = false ∧ x.isNegative = false := by
  refine ⟨?_, h.2⟩
  have hfinite := h.1
  simp only [Binary64.isFinite, Binary64.isNaN, decide_eq_true_eq, decide_eq_false_iff_not] at *
  omega

theorem isNumberChar_of_mem_write {x : Binary64} (hx : IsNumber x) {c : Char}
    (hc : c ∈ (Layout.document.write x).toList) : isNumberChar c = true := by
  have htells := Layout.document.write_tells hx.sound.1 hx.2
  generalize (Layout.document.write x).toList = cs at hc htells
  have hchar : c.isDigit = true ∨ c ∈ ['.', 'e', '+', '-'] := by
    cases htells with
    | infinite => exact absurd hx.1 (by decide)
    | positional _ hnumeral =>
        rcases hnumeral.1 c hc with hdigit | rfl
        · exact .inl hdigit
        · exact .inr (by decide)
    | exponent d => exact Layout.exponentText_chars hc
  simpa [isNumberChar] using hchar

theorem isNumberChar_of_mem_toDigits {n : Nat} {c : Char} (hc : c ∈ Nat.toDigits 10 n) :
    isNumberChar c = true := by
  simp [isNumberChar, Layout.isDigit_of_mem_toDigits hc]

theorem point_mem_positionalText {layout : Layout} (h : layout.wholeFraction = true)
    (d : Decimal) : '.' ∈ layout.positionalText d := by
  obtain ⟨c, e | e⟩ := d
  · simp [Layout.positionalText, h]
  · simp only [Layout.positionalText]
    split <;> simp

theorem decimalText_cases (layout : Layout) (d : Decimal) :
    layout.decimalText d = layout.positionalText d ∨
      layout.decimalText d = layout.exponentText d := by
  simp only [Layout.decimalText]
  split
  · exact .inl rfl
  · split
    · exact .inl rfl
    · exact .inr rfl

/-- Unlike a count, a number shows that it may have a fraction. -/
theorem exists_not_digit_mem_write {x : Binary64} (hx : IsNumber x) :
    ∃ c ∈ (Layout.document.write x).toList, c.isDigit = false := by
  rw [Layout.write_of_finite _ hx.1 hx.2, Layout.magnitudeText]
  split
  · exact ⟨'.', by decide, by decide⟩
  · rcases decimalText_cases Layout.document
      (Decimal.shortest Layout.document.tie (Binary64.ofBits x.magnitude)) with htext | htext
    · rw [htext]
      exact ⟨'.', point_mem_positionalText rfl _, by decide⟩
    · rw [htext]
      exact ⟨'e', Layout.e_mem_exponentText _ _, by decide⟩

theorem write_ne_toDigits {x : Binary64} (hx : IsNumber x) (n : Nat) :
    (Layout.document.write x).toList ≠ Nat.toDigits 10 n := by
  intro h
  obtain ⟨c, hc, hdigit⟩ := exists_not_digit_mem_write hx
  rw [h] at hc
  rw [Layout.isDigit_of_mem_toDigits hc] at hdigit
  cases hdigit

/-! ## Brackets -/

section

variable {α : Type}

def moreRows (row : α → List Char) (xs : List α) : List Char :=
  xs.flatMap fun x => ',' :: '\n' :: row x

def bracket (opening closing : Char) (depth : Nat) (row : α → List Char) : List α → List Char
  | [] => [opening, closing]
  | x :: xs => opening :: '\n' :: (row x ++ moreRows row xs ++ '\n' :: indent depth ++ [closing])

/-- The row of `x` differs from that of every other member of the class, whatever follows the rows
as long as it does not go on with a number. -/
def RowTells (row : α → List Char) (among : α → Prop) (x : α) : Prop :=
  ∀ y rest rest', among y → EndsNumber rest → EndsNumber rest' →
    row x ++ rest = row y ++ rest' → x = y ∧ rest = rest'

variable {row : α → List Char} {among : α → Prop}

theorem endsNumber_moreRows (xs : List α) {c : Char} (hc : isNumberChar c = false)
    (rest : List Char) : EndsNumber (moreRows row xs ++ c :: rest) := by
  cases xs with
  | nil => exact endsNumber_cons hc rest
  | cons x xs => exact endsNumber_cons (by decide) _

/-- Rows end where a line break stands that has no comma before it. -/
theorem moreRows_append_inj {xs ys : List α} (hxs : ∀ x ∈ xs, RowTells row among x)
    (hys : ∀ y ∈ ys, among y) {rest rest' : List Char}
    (h : moreRows row xs ++ '\n' :: rest = moreRows row ys ++ '\n' :: rest') :
    xs = ys ∧ rest = rest' := by
  induction xs generalizing ys with
  | nil =>
      cases ys with
      | nil => exact ⟨rfl, (List.cons.inj h).2⟩
      | cons y ys => simp [moreRows] at h
  | cons x xs ih =>
      cases ys with
      | nil => simp [moreRows] at h
      | cons y ys =>
          obtain ⟨hx, htells⟩ := List.forall_mem_cons.mp hxs
          obtain ⟨hy, hmembers⟩ := List.forall_mem_cons.mp hys
          have hrows : row x ++ (moreRows row xs ++ '\n' :: rest) =
              row y ++ (moreRows row ys ++ '\n' :: rest') := by
            simpa [moreRows] using h
          obtain ⟨rfl, hmore⟩ := hx y _ _ hy (endsNumber_moreRows xs (by decide) rest)
            (endsNumber_moreRows ys (by decide) rest') hrows
          obtain ⟨rfl, rfl⟩ := ih htells hmembers hmore
          exact ⟨rfl, rfl⟩

theorem bracket_append_inj {opening closing : Char} (hclosing : closing ≠ '\n') (depth : Nat)
    {xs ys : List α} (hxs : ∀ x ∈ xs, RowTells row among x) (hys : ∀ y ∈ ys, among y)
    {rest rest' : List Char}
    (h : bracket opening closing depth row xs ++ rest =
      bracket opening closing depth row ys ++ rest') : xs = ys ∧ rest = rest' := by
  cases xs with
  | nil =>
      cases ys with
      | nil => simpa [bracket] using h
      | cons y ys => simp [bracket, hclosing] at h
  | cons x xs =>
      cases ys with
      | nil => simp [bracket, hclosing.symm] at h
      | cons y ys =>
          have hrows : moreRows row (x :: xs) ++ '\n' :: (indent depth ++ closing :: rest) =
              moreRows row (y :: ys) ++ '\n' :: (indent depth ++ closing :: rest') := by
            simpa [bracket, moreRows] using h
          obtain ⟨hmembers, hbehind⟩ := moreRows_append_inj hxs hys hrows
          exact ⟨hmembers, (List.cons.inj (List.append_cancel_left hbehind)).2⟩

end

/-! ## Values -/

/-- A value whose numbers can all be written as such. -/
inductive Writable : JsonValue → Prop where
  | null : Writable null
  | text (s : String) : Writable (text s)
  | number {x : Binary64} : IsNumber x → Writable (number x)
  | natural (n : Nat) : Writable (natural n)
  | list {items : List JsonValue} : (∀ v ∈ items, Writable v) → Writable (list items)
  | record {members : List (String × JsonValue)} : (∀ m ∈ members, Writable m.2) →
      Writable (record members)

def itemRow (depth : Nat) (v : JsonValue) : List Char :=
  indent depth ++ v.pretty depth

def memberRow (depth : Nat) (m : String × JsonValue) : List Char :=
  indent depth ++ quoted m.1 ++ ':' :: ' ' :: m.2.pretty depth

theorem prettyItems_eq (depth : Nat) (vs : List JsonValue) :
    prettyItems depth vs = moreRows (itemRow depth) vs := by
  induction vs with
  | nil => rfl
  | cons v vs ih => simp [prettyItems, ih, moreRows, itemRow]

theorem prettyMembers_eq (depth : Nat) (ms : List (String × JsonValue)) :
    prettyMembers depth ms = moreRows (memberRow depth) ms := by
  induction ms with
  | nil => rfl
  | cons m ms ih => simp [prettyMembers, ih, moreRows, memberRow]

theorem pretty_list (depth : Nat) (items : List JsonValue) :
    pretty depth (list items) = bracket '[' ']' depth (itemRow (depth + 1)) items := by
  cases items with
  | nil => rfl
  | cons v vs => simp [pretty, bracket, prettyItems_eq, itemRow]

theorem pretty_record (depth : Nat) (members : List (String × JsonValue)) :
    pretty depth (record members) =
      bracket '\x7b' '\x7d' depth (memberRow (depth + 1)) members := by
  cases members with
  | nil => rfl
  | cons m ms => simp [pretty, bracket, prettyMembers_eq, memberRow]

inductive Form where
  | null
  | text
  | number
  | list
  | record

def Form.ofChar : Char → Form
  | 'n' => null
  | '"' => text
  | '[' => list
  | '\x7b' => record
  | _ => number

def form : JsonValue → Form
  | .null => .null
  | .text _ => .text
  | .number _ => .number
  | .natural _ => .number
  | .list _ => .list
  | .record _ => .record

theorem Form.ofChar_of_isNumberChar {c : Char} (h : isNumberChar c = true) :
    ofChar c = number := by
  unfold ofChar
  split
  · exact absurd h (by decide)
  · exact absurd h (by decide)
  · exact absurd h (by decide)
  · exact absurd h (by decide)
  · rfl

theorem exists_pretty_eq_cons {v : JsonValue} (hv : v.Writable) (depth : Nat) :
    ∃ c cs, v.pretty depth = c :: cs ∧ Form.ofChar c = v.form := by
  cases hv with
  | null => exact ⟨_, _, rfl, rfl⟩
  | text s => exact ⟨_, _, rfl, rfl⟩
  | @number x hx =>
      obtain ⟨c, hc, -⟩ := exists_not_digit_mem_write hx
      obtain ⟨d, cs, hcons⟩ := List.exists_cons_of_ne_nil (List.ne_nil_of_mem hc)
      refine ⟨d, cs, hcons, Form.ofChar_of_isNumberChar (isNumberChar_of_mem_write hx ?_)⟩
      simp [hcons]
  | natural n =>
      obtain ⟨d, cs, hcons⟩ := List.exists_cons_of_ne_nil (Nat.toDigits_ne_nil (b := 10) (n := n))
      refine ⟨d, cs, hcons, Form.ofChar_of_isNumberChar (isNumberChar_of_mem_toDigits (n := n) ?_)⟩
      simp [hcons]
  | @list items _ =>
      rw [pretty_list]
      cases items <;> exact ⟨_, _, rfl, rfl⟩
  | @record members _ =>
      rw [pretty_record]
      cases members <;> exact ⟨_, _, rfl, rfl⟩

theorem form_eq_of_pretty_append {v w : JsonValue} (hv : v.Writable) (hw : w.Writable)
    {depth : Nat} {rest rest' : List Char} (h : v.pretty depth ++ rest = w.pretty depth ++ rest') :
    v.form = w.form := by
  obtain ⟨c, cs, hcons, hc⟩ := exists_pretty_eq_cons hv depth
  obtain ⟨d, ds, hcons', hd⟩ := exists_pretty_eq_cons hw depth
  rw [hcons, hcons'] at h
  rw [← hc, ← hd, (List.cons.inj h).1]

theorem isNumberChar_of_mem_pretty {v : JsonValue} (hv : v.Writable) (hform : v.form = .number)
    {depth : Nat} {c : Char} (hc : c ∈ v.pretty depth) : isNumberChar c = true := by
  cases hv with
  | number hx => exact isNumberChar_of_mem_write hx hc
  | natural n => exact isNumberChar_of_mem_toDigits hc
  | _ => cases hform

theorem number_inj {v w : JsonValue} (hv : v.Writable) (hw : w.Writable)
    (hform : v.form = .number) (hform' : w.form = .number) {depth : Nat}
    (h : v.pretty depth = w.pretty depth) : v = w := by
  cases hv with
  | @number x hx =>
      cases hw with
      | @number y hy =>
          have htext : Layout.document.write x = Layout.document.write y := String.toList_inj.mp h
          rw [Layout.document.write_inj hx.sound hy.sound htext]
      | natural n => exact absurd h (write_ne_toDigits hx n)
      | _ => cases hform'
  | natural m =>
      cases hw with
      | @number y hy => exact absurd h.symm (write_ne_toDigits hy m)
      | natural n => rw [toDigits_inj h]
      | _ => cases hform'
  | _ => cases hform

theorem number_append_inj {v w : JsonValue} (hv : v.Writable) (hw : w.Writable)
    (hform : v.form = .number) {depth : Nat} {rest rest' : List Char} (hrest : EndsNumber rest)
    (hrest' : EndsNumber rest') (h : v.pretty depth ++ rest = w.pretty depth ++ rest') :
    v = w ∧ rest = rest' := by
  have hform' : w.form = .number := (form_eq_of_pretty_append hv hw h).symm.trans hform
  obtain ⟨htext, rfl⟩ := append_inj_of_stop
    (fun c => isNumberChar_of_mem_pretty hv hform) hrest
    (fun c => isNumberChar_of_mem_pretty hw hform') hrest' h
  exact ⟨number_inj hv hw hform hform' htext, rfl⟩

/-- A value is told by its text, and so is the place where it ends. -/
theorem pretty_append_inj {v w : JsonValue} (hv : v.Writable) (hw : w.Writable) {depth : Nat}
    {rest rest' : List Char} (hrest : EndsNumber rest) (hrest' : EndsNumber rest')
    (h : v.pretty depth ++ rest = w.pretty depth ++ rest') : v = w ∧ rest = rest' := by
  induction hv generalizing w depth rest rest' with
  | null =>
      have hform := form_eq_of_pretty_append .null hw h
      cases hw with
      | null => exact ⟨rfl, List.append_cancel_left h⟩
      | _ => cases hform
  | text s =>
      have hform := form_eq_of_pretty_append (.text s) hw h
      cases hw with
      | text t =>
          obtain ⟨rfl, rfl⟩ := quoted_append_inj h
          exact ⟨rfl, rfl⟩
      | _ => cases hform
  | number hx => exact number_append_inj (.number hx) hw rfl hrest hrest' h
  | natural n => exact number_append_inj (.natural n) hw rfl hrest hrest' h
  | @list items hitems ih =>
      have hform := form_eq_of_pretty_append (.list hitems) hw h
      cases hw with
      | @list others hothers =>
          have htells : ∀ v ∈ items, RowTells (itemRow (depth + 1)) Writable v := by
            intro v hv w rest rest' hw hrest hrest' heq
            simp only [itemRow, List.append_assoc] at heq
            exact ih v hv hw hrest hrest' (List.append_cancel_left heq)
          rw [pretty_list, pretty_list] at h
          obtain ⟨rfl, rfl⟩ := bracket_append_inj (by decide) depth htells hothers h
          exact ⟨rfl, rfl⟩
      | _ => cases hform
  | @record members hmembers ih =>
      have hform := form_eq_of_pretty_append (.record hmembers) hw h
      cases hw with
      | @record others hothers =>
          have htells : ∀ m ∈ members,
              RowTells (memberRow (depth + 1)) (fun m => Writable m.2) m := by
            rintro ⟨k, v⟩ hm ⟨l, w⟩ rest rest' hw hrest hrest' heq
            simp only [memberRow, List.append_assoc, List.cons_append] at heq
            obtain ⟨rfl, hvalue⟩ := quoted_append_inj (List.append_cancel_left heq)
            simp only [List.cons.injEq, true_and] at hvalue
            obtain ⟨rfl, rfl⟩ := ih (k, v) hm hw hrest hrest' hvalue
            exact ⟨rfl, rfl⟩
          rw [pretty_record, pretty_record] at h
          obtain ⟨rfl, rfl⟩ := bracket_append_inj (by decide) depth htells hothers h
          exact ⟨rfl, rfl⟩
      | _ => cases hform

end JsonValue

end StatementLexer
