/-! # Byte offsets

Positions in a text are counted in bytes of its UTF-8 form. A cut is possible only between
characters, so the functions that cut answer `none` for an offset inside a character or past the
end.
-/

namespace StatementLexer.Text

def byteLength : List Char → Nat
  | [] => 0
  | c :: cs => c.utf8Size + byteLength cs

/-- What is left of a text behind its first `n` bytes. -/
def dropBytes? (n : Nat) : List Char → Option (List Char)
  | [] => if n = 0 then some [] else none
  | c :: cs =>
      if n = 0 then some (c :: cs)
      else if c.utf8Size ≤ n then dropBytes? (n - c.utf8Size) cs
      else none

def takeBytes? (n : Nat) : List Char → Option (List Char)
  | [] => if n = 0 then some [] else none
  | c :: cs =>
      if n = 0 then some []
      else if c.utf8Size ≤ n then (takeBytes? (n - c.utf8Size) cs).map (c :: ·)
      else none

def slice? (start stop : Nat) (cs : List Char) : Option (List Char) :=
  if start ≤ stop then (dropBytes? start cs).bind (takeBytes? (stop - start)) else none

def bytes (s : String) : List UInt8 :=
  s.toUTF8.data.toList

theorem bytes_append (s t : String) : bytes (s ++ t) = bytes s ++ bytes t := by
  simp [bytes, String.toByteArray_append, ByteArray.data_append]

@[simp] theorem byteLength_nil : byteLength [] = 0 := rfl

@[simp] theorem byteLength_cons (c : Char) (cs : List Char) :
    byteLength (c :: cs) = c.utf8Size + byteLength cs := rfl

theorem byteLength_append (xs ys : List Char) :
    byteLength (xs ++ ys) = byteLength xs + byteLength ys := by
  induction xs with
  | nil => simp
  | cons c cs ih => simp [ih, Nat.add_assoc]

theorem byteLength_replicate (n : Nat) (c : Char) :
    byteLength (List.replicate n c) = n * c.utf8Size := by
  induction n with
  | zero => rw [List.replicate_zero, byteLength_nil, Nat.zero_mul]
  | succ n ih => rw [List.replicate_succ, byteLength_cons, ih, Nat.succ_mul, Nat.add_comm]

theorem length_bytes (s : String) : (bytes s).length = s.utf8ByteSize := by
  simp [bytes]

theorem length_bytes_ofList (cs : List Char) :
    (bytes (String.ofList cs)).length = byteLength cs := by
  induction cs with
  | nil => rfl
  | cons c cs ih =>
      rw [String.ofList_cons, bytes_append, List.length_append, ih, length_bytes,
        String.utf8ByteSize_singleton, byteLength_cons]

theorem utf8Size_ne_zero (c : Char) : c.utf8Size ≠ 0 := by
  have := c.utf8Size_pos
  omega

theorem dropBytes?_append (xs ys : List Char) :
    dropBytes? (byteLength xs) (xs ++ ys) = some ys := by
  induction xs with
  | nil => cases ys <;> simp [dropBytes?]
  | cons c cs ih =>
      have := utf8Size_ne_zero c
      simp [dropBytes?, this, ih]

theorem takeBytes?_append (xs ys : List Char) :
    takeBytes? (byteLength xs) (xs ++ ys) = some xs := by
  induction xs with
  | nil => cases ys <;> simp [takeBytes?]
  | cons c cs ih =>
      have := utf8Size_ne_zero c
      simp [takeBytes?, this, ih]

/-- A piece of a text is what stands between the byte offsets of its two ends. -/
theorem slice?_append (xs ys zs : List Char) :
    slice? (byteLength xs) (byteLength xs + byteLength ys) (xs ++ ys ++ zs) = some ys := by
  simp [slice?, dropBytes?_append, takeBytes?_append]

end StatementLexer.Text
