/-
**Texts as bytes.**

Bytes that come from outside need not be a text.  Often that settles the matter, but a string that
nobody looks at may hold any bytes, so there are two ways to read: as a whole, or character by
character with a gap in place of every byte that belongs to no character.

Main definitions:

* `utf8Bytes` — the bytes of a text;
* `readUtf8?` — the text of bytes, if they are one;
* `readLegible` — the characters that bytes hold, and the gaps between them.

Main results:

* `readUtf8?_utf8Bytes` — **every text reads back from its bytes**;
* `readLegible_utf8Bytes` — **the bytes of a text are legible**: there are no gaps.
-/

set_option autoImplicit false

namespace QuizAttempts

/-- The bytes of a text. -/
def utf8Bytes (text : List Char) : List UInt8 := text.flatMap String.utf8EncodeChar

@[simp] theorem utf8Bytes_cons (c : Char) (text : List Char) :
    utf8Bytes (c :: text) = String.utf8EncodeChar c ++ utf8Bytes text := rfl

/-! ### All or nothing -/

/-- The text of bytes, if they are one. -/
def readUtf8? (bytes : List UInt8) : Option (List Char) :=
  bytes.toByteArray.utf8Decode?.map (·.toList)

/-- **Every text reads back from its bytes.** -/
@[simp] theorem readUtf8?_utf8Bytes (text : List Char) :
    readUtf8? (utf8Bytes text) = some text := by
  have h : (utf8Bytes text).toByteArray = text.utf8Encode := rfl
  rw [readUtf8?, h, List.utf8Decode?_utf8Encode]
  simp

/-! ### Character by character -/

/-- The character at the start of bytes; no character has more than four. -/
def firstChar? (bytes : List UInt8) : Option Char := (bytes.take 4).toByteArray.utf8DecodeChar? 0

/-- **The characters that bytes hold**, and a gap for every byte that belongs to none. -/
def readLegible : List UInt8 → List (Option Char)
  | [] => []
  | byte :: bytes =>
      match firstChar? (byte :: bytes) with
      | some c => some c :: readLegible (bytes.drop (c.utf8Size - 1))
      | none => none :: readLegible bytes
termination_by bytes => bytes.length

theorem firstChar?_append (c : Char) (bytes : List UInt8) :
    firstChar? (String.utf8EncodeChar c ++ bytes) = some c := by
  have hlen : (String.utf8EncodeChar c).length ≤ 4 := by
    rw [String.length_utf8EncodeChar]
    exact Char.utf8Size_le_four c
  rw [firstChar?, List.take_append, List.take_of_length_le hlen, List.toByteArray_append,
    ← List.utf8Encode_singleton]
  exact List.utf8DecodeChar?_utf8Encode_singleton_append

theorem readLegible_append (c : Char) (bytes : List UInt8) :
    readLegible (String.utf8EncodeChar c ++ bytes) = some c :: readLegible bytes := by
  have hfirst := firstChar?_append c bytes
  have hlen := String.length_utf8EncodeChar c
  cases h : String.utf8EncodeChar c with
  | nil =>
      rw [h] at hlen
      exact absurd hlen.symm (Nat.ne_of_gt (Char.utf8Size_pos c))
  | cons byte tail =>
      rw [h] at hfirst hlen
      have htail : c.utf8Size - 1 = tail.length := by
        rw [← hlen]
        rfl
      rw [List.cons_append] at hfirst ⊢
      rw [readLegible, hfirst]
      simp only [htail, List.drop_left]

/-- **The bytes of a text are legible.** -/
@[simp] theorem readLegible_utf8Bytes (text : List Char) :
    readLegible (utf8Bytes text) = text.map some := by
  induction text with
  | nil => simp [utf8Bytes, readLegible]
  | cons c text ih => rw [utf8Bytes_cons, readLegible_append, ih, List.map_cons]

end QuizAttempts
