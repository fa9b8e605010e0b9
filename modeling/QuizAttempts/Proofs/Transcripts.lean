/-
**What is written reads back.**

The writer and the reader of documents were made apart from one another, and either is longer than
it is deep: escapes, code points, numerals, commas.  Here they are put together.  The text of a
document without fractions is read as that document, whatever stands behind it, provided that it
does not go on where a numeral left off.

What holds of a string is said for one character and then for a text: what stands for a character
is one piece, and the piece stands for that character.  Nothing else is needed of the escapes.  A
document is read by induction on its structure, items and members along with it; the bound of the
reader only has to be twice the length of what was written, because every item costs a character.

Main definitions:

* `Json.Piece.Spells` — a piece stands for a character;
* `Json.breaksNumerals` — a text that a numeral does not run into;
* `Json.isVerbatim` — **the documents that read back**: nothing unusable or broken in them, and all
  their numbers are integers.

Main results:

* `head?_toDigits_ne_zero` — a numeral has no leading zero;
* `Json.readPieces_writeString` — the pieces of a written string;
* `Json.readNumeral_writeInt` — an integer is read from its numeral;
* `Json.readValue_write` — **a document is read from its text**, and what stands behind it is left;
* `Json.read_write` — a text that holds a document and nothing else.
-/
import QuizAttempts.Json.Reader
import QuizAttempts.Json.Writer

set_option autoImplicit false

namespace QuizAttempts

/-! ### Digits -/

theorem digitChar_ne_zero {n : Nat} (hpos : 0 < n) (hlt : n < 10) : Nat.digitChar n ≠ '0' := by
  revert hpos
  exact (by decide : ∀ n < 10, 0 < n → Nat.digitChar n ≠ '0') n hlt

/-- A numeral has no leading zero. -/
theorem head?_toDigits_ne_zero {n : Nat} (hpos : 0 < n) :
    (Nat.toDigits 10 n).head? ≠ some '0' := by
  induction n using Nat.strongRecOn with
  | ind n ih =>
      by_cases hlt : n < 10
      · rw [Nat.toDigits_of_lt_base hlt]
        simpa using digitChar_ne_zero hpos hlt
      · have hrest := ih (n / 10) (by omega) (by omega)
        rw [Nat.toDigits_of_base_le (by decide) (by omega), List.head?_append]
        cases hhead : (Nat.toDigits 10 (n / 10)).head? with
        | none => exact absurd (List.head?_eq_none_iff.1 hhead) Nat.toDigits_ne_nil
        | some c =>
            rw [hhead] at hrest
            exact hrest

theorem isDigit_of_mem_toDigits {c : Char} {n : Nat} (h : c ∈ Nat.toDigits 10 n) :
    c.isDigit = true :=
  Nat.isDigit_of_mem_toDigits (by decide) (by decide) h

/-- A numeral without a sign starts with a digit. -/
theorem toDigits_eq_cons (n : Nat) :
    ∃ c digits, Nat.toDigits 10 n = c :: digits ∧ c.isDigit = true := by
  cases h : Nat.toDigits 10 n with
  | nil => exact absurd h Nat.toDigits_ne_nil
  | cons c digits => exact ⟨c, digits, rfl, isDigit_of_mem_toDigits (h ▸ List.mem_cons_self ..)⟩

/-- A character with which the numeral of an integer may start. -/
def startsNumeral (c : Char) : Bool := c.isDigit || c == '-'

theorem writeInt_eq_cons (n : Int) :
    ∃ c text, writeInt n = c :: text ∧ startsNumeral c = true := by
  cases n with
  | ofNat n =>
      obtain ⟨c, digits, hcons, hc⟩ := toDigits_eq_cons n
      exact ⟨c, digits, hcons, by rw [startsNumeral, hc, Bool.true_or]⟩
  | negSucc n => exact ⟨'-', Nat.toDigits 10 (n + 1), rfl, by decide⟩

namespace Json

/-! ### Strings -/

/-- The piece stands for the character, whatever pieces follow. -/
def Piece.Spells (piece : Piece) (c : Char) : Prop :=
  ∀ pieces, joinPieces (piece :: pieces) = (joinPieces pieces).map (c :: ·)

theorem spells_char (c : Char) : (Piece.char c).Spells c := by
  intro pieces
  rw [joinPieces]

/-- A code point that is no half of a surrogate pair stands for its character. -/
theorem spells_escaped {c : Char} (h : c.toNat < 0xD800) : (Piece.escaped c.toNat).Spells c := by
  have hhigh : isHighSurrogate c.toNat = false := by simp [isHighSurrogate]; omega
  have hlow : isLowSurrogate c.toNat = false := by simp [isLowSurrogate]; omega
  intro pieces
  cases pieces with
  | nil => simp [joinPieces, hhigh, hlow]
  | cons piece pieces => cases piece <;> simp [joinPieces, hhigh, hlow]

theorem readPieces_escape {mark c : Char} (h : plainEscape? mark = some c) (rest : Script) :
    readPieces (some '\\' :: some mark :: rest) =
      (readPieces rest).map fun (pieces, behind) => (.char c :: pieces, behind) := by
  rw [readPieces]
  · rw [h]
    cases readPieces rest <;> rfl
  · -- the mark of a code point stands for no character of its own
    rintro _ _ _ _ _ - rfl
    exact absurd h (by simp [plainEscape?])

theorem hexQuad?_digitChar {n : Nat} (h : n < 0x20) :
    hexQuad? '0' '0' (Nat.digitChar (n / 16)) (Nat.digitChar (n % 16)) = some n :=
  (by decide : ∀ n < 0x20,
    hexQuad? '0' '0' (Nat.digitChar (n / 16)) (Nat.digitChar (n % 16)) = some n) n h

theorem readPieces_codePoint {n : Nat} (h : n < 0x20) (rest : Script) :
    readPieces (some '\\' :: some 'u' :: some '0' :: some '0' :: some (Nat.digitChar (n / 16)) ::
        some (Nat.digitChar (n % 16)) :: rest) =
      (readPieces rest).map fun (pieces, behind) => (.escaped n :: pieces, behind) := by
  rw [readPieces, hexQuad?_digitChar h]
  cases readPieces rest <;> rfl

theorem readPieces_plain {c : Char} (hq : c ≠ '"') (hb : c ≠ '\\') (h : 0x20 ≤ c.toNat)
    (rest : Script) :
    readPieces (some c :: rest) =
      (readPieces rest).map fun (pieces, behind) => (.char c :: pieces, behind) := by
  have hraw : ¬ (c.toNat < 0x20 ∨ c = '\\') := by
    rintro (hlow | hback)
    · omega
    · exact hb hback
  rw [readPieces, if_neg hraw]
  · cases readPieces rest <;> rfl
  · exact hq
  · exact fun _ _ _ _ _ _ => hb
  · exact fun _ _ _ => hb

/-- **What stands for a character is one piece**, and the piece stands for that character. -/
theorem exists_piece (c : Char) :
    ∃ piece : Piece, piece.Spells c ∧ ∀ rest : Script,
      readPieces ((escapeChar c).map some ++ rest) =
        (readPieces rest).map fun (pieces, behind) => (piece :: pieces, behind) := by
  unfold escapeChar
  split
  case h_8 hq hb _ _ _ _ _ =>
    split
    · rename_i hlow
      exact ⟨.escaped c.toNat, spells_escaped (by omega), readPieces_codePoint hlow⟩
    · rename_i hlow
      exact ⟨.char c, spells_char c, readPieces_plain hq hb (Nat.not_lt.1 hlow)⟩
  -- the characters with short forms of their own
  all_goals exact ⟨.char _, spells_char _, readPieces_escape rfl⟩

/-- **The pieces of a written string** are its text. -/
theorem readPieces_writeString (text : List Char) (behind : Script) :
    ∃ pieces, joinPieces pieces = some text ∧
      readPieces ((text.flatMap escapeChar).map some ++ some '"' :: behind) =
        some (pieces, behind) := by
  induction text with
  | nil => exact ⟨[], rfl, rfl⟩
  | cons c text ih =>
      obtain ⟨pieces, hjoin, hread⟩ := ih
      obtain ⟨piece, hspells, hone⟩ := exists_piece c
      refine ⟨piece :: pieces, ?_, ?_⟩
      · rw [hspells, hjoin]
        rfl
      · rw [List.flatMap_cons, List.map_append, List.append_assoc, hone, hread]
        rfl

/-! ### Numerals -/

/-- A numeral does not run into the text: it starts with nothing that a numeral may go on with. -/
def breaksNumerals : Script → Bool
  | some c :: _ => !(c.isDigit || c == '.' || c == 'e' || c == 'E')
  | _ => true

theorem splitDigits_append {digits : List Char} {behind : Script}
    (hdigits : ∀ c ∈ digits, c.isDigit = true) (hbehind : breaksNumerals behind = true) :
    splitDigits (digits.map some ++ behind) = (digits, behind) := by
  induction digits with
  | nil =>
      cases behind with
      | nil => rfl
      | cons c rest =>
          cases c with
          | none => rfl
          | some c =>
              have hc : c.isDigit = false := by
                simp only [breaksNumerals, Bool.not_eq_true', Bool.or_eq_false_iff] at hbehind
                exact hbehind.1.1.1
              simp [splitDigits, hc]
  | cons c digits ih =>
      have hc : c.isDigit = true := hdigits c (List.mem_cons_self ..)
      have hrest := ih fun d hd => hdigits d (List.mem_cons_of_mem _ hd)
      simp only [List.map_cons, List.cons_append, splitDigits, hc, if_true, hrest]

theorem readFraction?_of_breaksNumerals {behind : Script} (h : breaksNumerals behind = true) :
    readFraction? behind = some ([], behind) := by
  unfold readFraction?
  split
  · exact absurd h (by simp [breaksNumerals])
  · rfl

theorem readExponent?_of_breaksNumerals {behind : Script} (h : breaksNumerals behind = true) :
    readExponent? behind = some (none, behind) := by
  unfold readExponent?
  split
  · exact absurd h (by simp [breaksNumerals])
  · exact absurd h (by simp [breaksNumerals])
  · rfl

/-- **An integer is read from its numeral.** -/
theorem readNumeral_writeInt {n : Int} (hfinite : (Binary64.ofInt n).isFinite = true)
    {behind : Script} (hbehind : breaksNumerals behind = true) :
    readNumeral ((writeInt n).map some ++ behind) = some (.int n, behind) := by
  have hdigits (m : Nat) : splitDigits ((Nat.toDigits 10 m).map some ++ behind) =
      (Nat.toDigits 10 m, behind) :=
    splitDigits_append (fun _ => isDigit_of_mem_toDigits) hbehind
  have hleading (m : Nat) :
      ¬ ((Nat.toDigits 10 m).head? = some '0' ∧ Nat.toDigits 10 m ≠ ['0']) := by
    rintro ⟨hhead, hlong⟩
    cases m with
    | zero => exact hlong rfl
    | succ m => exact head?_toDigits_ne_zero (Nat.succ_pos m) hhead
  have hfraction := readFraction?_of_breaksNumerals hbehind
  have hexponent := readExponent?_of_breaksNumerals hbehind
  cases n with
  | ofNat n =>
      obtain ⟨c, rest, hcons, hc⟩ := toDigits_eq_cons n
      have hsign : ∀ text : Script,
          (writeInt (.ofNat n)).map some ++ behind = some '-' :: text → False := by
        intro text htext
        rw [writeInt, hcons] at htext
        obtain ⟨rfl⟩ : c = '-' := Option.some.inj (List.cons.inj htext).1
        exact absurd hc (by decide)
      unfold readNumeral
      split
      rename_i heq
      split at heq
      · rename_i htext
        exact (hsign _ htext).elim
      · obtain ⟨rfl, rfl⟩ := Prod.mk.inj heq
        simp only [writeInt, hdigits, readDigits?_toDigits, hleading, if_false, hfraction,
          Option.bind_eq_bind, Option.bind_some, hexponent]
        simpa [ofNumeral] using hfinite
  | negSucc n =>
      simp only [writeInt, List.map_cons, List.cons_append, readNumeral, hdigits,
        readDigits?_toDigits, hleading, if_false, hfraction, Option.bind_eq_bind,
        Option.bind_some, hexponent]
      rw [Int.negSucc_eq] at hfinite ⊢
      simpa [ofNumeral] using hfinite

/-! ### Documents -/

mutual

/-- **The document reads back from its text**: nothing in it is unusable or broken, all its members
have names, and all its numbers are integers that a reader does not give up. -/
def isVerbatim : Json → Bool
  | .int n => (Binary64.ofInt n).isFinite
  | .array items => areVerbatim items
  | .object members => membersAreVerbatim members
  | .float _ | .unusable _ | .broken => false
  | _ => true

/-- All items read back. -/
def areVerbatim : List Json → Bool
  | [] => true
  | item :: items => isVerbatim item && areVerbatim items

/-- All members read back, names included. -/
def membersAreVerbatim : List (Option String × Json) → Bool
  | [] => true
  | (name, value) :: members => name.isSome && isVerbatim value && membersAreVerbatim members

end

theorem membersAreVerbatim_map (fields : List (String × Json)) :
    membersAreVerbatim (fields.map fun field => (some field.1, field.2)) =
      fields.all fun field => field.2.isVerbatim := by
  induction fields with
  | nil => rfl
  | cons field fields ih => simp [membersAreVerbatim, ih]

@[simp] theorem isVerbatim_record (fields : List (String × Json)) :
    (record fields).isVerbatim = fields.all fun field => field.2.isVerbatim := by
  simp [record, isVerbatim, membersAreVerbatim_map]

theorem areVerbatim_eq_all (items : List Json) : areVerbatim items = items.all isVerbatim := by
  induction items with
  | nil => rfl
  | cons item items ih => simp [areVerbatim, ih]

/-- The text of a document starts with a character that is not skipped and closes no array. -/
theorem write_eq_cons {j : Json} (h : j.isVerbatim = true) :
    ∃ c text, write j = c :: text ∧ isSpace c = false ∧ c ≠ ']' := by
  cases j with
  | null => exact ⟨_, _, rfl, by decide, by decide⟩
  | bool value => cases value <;> exact ⟨_, _, rfl, by decide, by decide⟩
  | int n =>
      obtain ⟨c, text, hcons, hc⟩ := writeInt_eq_cons n
      refine ⟨c, text, by rw [write, hcons], ?_, ?_⟩
      · simp only [isSpace, Bool.or_eq_false_iff, beq_eq_false_iff_ne]
        refine ⟨⟨⟨?_, ?_⟩, ?_⟩, ?_⟩ <;> rintro rfl <;> exact absurd hc (by decide)
      · rintro rfl
        exact absurd hc (by decide)
  | string s => exact ⟨_, _, rfl, by decide, by decide⟩
  | array items => exact ⟨_, _, by rw [write], by decide, by decide⟩
  | object members => exact ⟨_, _, by rw [write], by decide, by decide⟩
  | float x => exact absurd h (by simp [isVerbatim])
  | unusable passable => exact absurd h (by simp [isVerbatim])
  | broken => exact absurd h (by simp [isVerbatim])

variable {bound : Nat} {behind : Script}

theorem map_writeString (text : List Char) (behind : Script) :
    (writeString text).map some ++ behind =
      some '"' :: ((text.flatMap escapeChar).map some ++ some '"' :: behind) := by
  simp [writeString]

theorem readValue_string (text : List Char) :
    readValue (bound + 1) ((writeString text).map some ++ behind) =
      (.string (String.ofList text), behind) := by
  obtain ⟨pieces, hjoin, hread⟩ := readPieces_writeString text behind
  rw [map_writeString, readValue, skipSpace_of_not_space (by decide)]
  simp only [hread, ofPieces, hjoin]

theorem readValue_int {n : Int} (hfinite : (Binary64.ofInt n).isFinite = true)
    (hbehind : breaksNumerals behind = true) :
    readValue (bound + 1) ((writeInt n).map some ++ behind) = (.int n, behind) := by
  have hread := readNumeral_writeInt hfinite hbehind
  obtain ⟨c, text, hcons, hc⟩ := writeInt_eq_cons n
  have hspace : isSpace c = false := by
    obtain ⟨d, rest, hd, hspace, -⟩ := write_eq_cons (j := .int n) hfinite
    obtain ⟨rfl, -⟩ := List.cons.inj (hcons.symm.trans hd)
    exact hspace
  rw [hcons, List.map_cons, List.cons_append] at hread ⊢
  rw [readValue, skipSpace_of_not_space hspace]
  split
  case h_7 => rw [hread]
  -- none of the other tokens starts like a numeral
  all_goals
    rename_i heq
    obtain ⟨hfirst, -⟩ := List.cons.inj heq
    obtain rfl := Option.some.inj hfirst
    exact absurd hc (by decide)

/-- An array whose text does not start with its end is read item by item. -/
theorem readValue_items {c : Char} {text : Script} (hspace : isSpace c = false) (hc : c ≠ ']') :
    readValue (bound + 1) (some '[' :: some c :: text) =
      (.array (readItems bound (some c :: text)).1, (readItems bound (some c :: text)).2) := by
  rw [readValue, skipSpace_of_not_space (by decide)]
  simp only [skipSpace_of_not_space hspace]
  split
  · rename_i heq
    exact absurd (Option.some.inj (List.cons.inj heq).1) hc
  · rfl

/-- An object whose text starts with a name is read member by member. -/
theorem readValue_members {text : Script} :
    readValue (bound + 1) (some '\x7b' :: some '"' :: text) =
      (.object (readMembers bound (some '"' :: text)).1,
        (readMembers bound (some '"' :: text)).2) := by
  rw [readValue, skipSpace_of_not_space (by decide)]
  simp only [skipSpace_of_not_space (c := '"') (by decide)]
  split
  · rename_i heq
    exact absurd (Option.some.inj (List.cons.inj heq).1) (by decide)
  · rfl

theorem writeItems_singleton (item : Json) : writeItems [item] = write item := by
  rw [writeItems]
  exact List.append_nil _

theorem writeItems_cons_cons (item next : Json) (items : List Json) :
    writeItems (item :: next :: items) = write item ++ ',' :: writeItems (next :: items) := by
  rw [writeItems]
  rfl

theorem writeMembers_singleton (name : String) (value : Json) :
    writeMembers [(some name, value)] = writeString name.toList ++ ':' :: write value := by
  rw [writeMembers]
  exact congrArg (writeString name.toList ++ ':' :: ·) (List.append_nil _)

theorem writeMembers_cons_cons (name : String) (value : Json) (next : Option String × Json)
    (members : List (Option String × Json)) :
    writeMembers ((some name, value) :: next :: members) =
      writeString name.toList ++ ':' :: (write value ++ ',' :: writeMembers (next :: members)) := by
  rw [writeMembers]
  rfl

theorem writeItems_eq_cons {item : Json} {items : List Json}
    (h : areVerbatim (item :: items) = true) :
    ∃ c text, writeItems (item :: items) = c :: text ∧ isSpace c = false ∧ c ≠ ']' := by
  rw [areVerbatim, Bool.and_eq_true] at h
  obtain ⟨c, text, hcons, hc⟩ := write_eq_cons h.1
  exact ⟨c, _, by rw [writeItems, hcons]; rfl, hc⟩

theorem writeMembers_eq_cons (name : String) (value : Json)
    (members : List (Option String × Json)) :
    ∃ text, writeMembers ((some name, value) :: members) = '"' :: text :=
  ⟨_, by rw [writeMembers]; rfl⟩

section Steps

variable {text rest : Script} {value : Json} {name : String}

theorem readItems_last (h : readValue bound text = (value, some ']' :: behind)) :
    readItems (bound + 1) text = ([value], behind) := by
  rw [readItems, h]
  simp only [skipSpace_of_not_space (c := ']') (by decide)]

theorem readItems_more (h : readValue bound text = (value, some ',' :: rest)) :
    readItems (bound + 1) text =
      (value :: (readItems bound rest).1, (readItems bound rest).2) := by
  rw [readItems, h]
  simp only [skipSpace_of_not_space (c := ',') (by decide)]

theorem readMembers_last (h : readValue bound text = (value, some '\x7d' :: behind)) :
    readMembers (bound + 1) ((writeString name.toList).map some ++ some ':' :: text) =
      ([(some name, value)], behind) := by
  obtain ⟨pieces, hjoin, hread⟩ := readPieces_writeString name.toList (some ':' :: text)
  rw [map_writeString, readMembers, skipSpace_of_not_space (by decide)]
  simp only [hread, hjoin, Option.map_some, String.ofList_toList,
    skipSpace_of_not_space (c := ':') (by decide), h,
    skipSpace_of_not_space (c := '\x7d') (by decide)]

theorem readMembers_more (h : readValue bound text = (value, some ',' :: rest)) :
    readMembers (bound + 1) ((writeString name.toList).map some ++ some ':' :: text) =
      ((some name, value) :: (readMembers bound rest).1, (readMembers bound rest).2) := by
  obtain ⟨pieces, hjoin, hread⟩ := readPieces_writeString name.toList (some ':' :: text)
  rw [map_writeString, readMembers, skipSpace_of_not_space (by decide)]
  simp only [hread, hjoin, Option.map_some, String.ofList_toList,
    skipSpace_of_not_space (c := ':') (by decide), h,
    skipSpace_of_not_space (c := ',') (by decide)]

end Steps

-- Behind an item stands a comma or a bracket, so what stands behind the whole document has to be
-- asked about only once.  Each comma pays for the step of the bound that reading past it takes.
mutual

/-- **A document is read from its text**, and what stands behind it is left. -/
theorem readValue_write : ∀ (j : Json) (bound : Nat) (behind : Script), j.isVerbatim = true →
    breaksNumerals behind = true → 2 * (write j).length ≤ bound →
      readValue bound ((write j).map some ++ behind) = (j, behind)
  | j, 0, behind, hj, _, hbound => by
      obtain ⟨c, text, hcons, -⟩ := write_eq_cons hj
      rw [hcons] at hbound
      exact absurd hbound (by simp)
  | .null, bound + 1, behind, _, _, _ => rfl
  | .bool value, bound + 1, behind, _, _, _ => by cases value <;> rfl
  | .int n, bound + 1, behind, hj, hbehind, _ => by
      rw [isVerbatim] at hj
      rw [write, readValue_int hj hbehind]
  | .string s, bound + 1, behind, _, _, _ => by
      rw [write, readValue_string, String.ofList_toList]
  | .array [], bound + 1, behind, _, _, _ => rfl
  | .array (item :: items), bound + 1, behind, hj, _, hbound => by
      rw [isVerbatim] at hj
      rw [write] at hbound ⊢
      simp only [List.length_cons, List.length_append] at hbound
      have hread := readItems_write item items bound behind hj (by omega)
      obtain ⟨c, text, hcons, hspace, hc⟩ := writeItems_eq_cons hj
      simp only [List.map_cons, List.cons_append, List.map_append, List.append_assoc,
        List.map_nil, List.nil_append, hcons] at hread ⊢
      rw [readValue_items hspace hc, hread]
  | .object [], bound + 1, behind, _, _, _ => rfl
  | .object ((none, _) :: _), _ + 1, _, hj, _, _ =>
      absurd hj (by simp [isVerbatim, membersAreVerbatim])
  | .object ((some name, value) :: members), bound + 1, behind, hj, _, hbound => by
      rw [isVerbatim] at hj
      rw [write] at hbound ⊢
      simp only [List.length_cons, List.length_append] at hbound
      have hread := readMembers_write name value members bound behind hj (by omega)
      obtain ⟨text, hcons⟩ := writeMembers_eq_cons name value members
      simp only [List.map_cons, List.cons_append, List.map_append, List.append_assoc,
        List.map_nil, List.nil_append, hcons] at hread ⊢
      rw [readValue_members, hread]
  | .float _, _ + 1, _, hj, _, _ | .unusable _, _ + 1, _, hj, _, _ | .broken, _ + 1, _, hj, _, _ =>
      absurd hj (by simp [isVerbatim])

/-- The items of an array are read from their texts. -/
theorem readItems_write : ∀ (item : Json) (items : List Json) (bound : Nat) (behind : Script),
    areVerbatim (item :: items) = true → 2 * (writeItems (item :: items)).length + 1 ≤ bound →
      readItems bound ((writeItems (item :: items)).map some ++ some ']' :: behind) =
        (item :: items, behind)
  | item, [], bound + 1, behind, hitems, hbound => by
      rw [areVerbatim, Bool.and_eq_true] at hitems
      rw [writeItems_singleton] at hbound ⊢
      exact readItems_last (readValue_write item bound _ hitems.1 rfl (by omega))
  | item, next :: items, bound + 1, behind, hitems, hbound => by
      rw [areVerbatim, Bool.and_eq_true] at hitems
      rw [writeItems_cons_cons] at hbound ⊢
      simp only [List.length_cons, List.length_append] at hbound
      have hrest := readItems_write next items bound behind hitems.2 (by omega)
      rw [List.map_append, List.map_cons, List.append_assoc, List.cons_append,
        readItems_more (readValue_write item bound _ hitems.1 rfl (by omega)), hrest]

/-- The members of an object are read from their texts. -/
theorem readMembers_write : ∀ (name : String) (value : Json)
    (members : List (Option String × Json)) (bound : Nat) (behind : Script),
    membersAreVerbatim ((some name, value) :: members) = true →
      2 * (writeMembers ((some name, value) :: members)).length + 1 ≤ bound →
      readMembers bound
          ((writeMembers ((some name, value) :: members)).map some ++ some '\x7d' :: behind) =
        ((some name, value) :: members, behind)
  | name, value, [], bound + 1, behind, hmembers, hbound => by
      simp only [membersAreVerbatim, Bool.and_eq_true] at hmembers
      rw [writeMembers_singleton] at hbound ⊢
      simp only [List.length_cons, List.length_append] at hbound
      rw [List.map_append, List.map_cons, List.append_assoc, List.cons_append]
      exact readMembers_last (readValue_write value bound _ hmembers.1.2 rfl (by omega))
  | _, _, (none, _) :: _, _ + 1, _, hmembers, _ =>
      absurd hmembers (by simp [membersAreVerbatim])
  | name, value, (some next, v) :: members, bound + 1, behind, hmembers, hbound => by
      rw [membersAreVerbatim, Bool.and_eq_true, Bool.and_eq_true] at hmembers
      rw [writeMembers_cons_cons] at hbound ⊢
      simp only [List.length_cons, List.length_append] at hbound
      have hrest := readMembers_write next v members bound behind hmembers.2 (by omega)
      simp only [List.map_append, List.map_cons, List.append_assoc, List.cons_append]
      rw [readMembers_more (readValue_write value bound _ hmembers.1.2 rfl (by omega)), hrest]

end

/-- **A text that holds a document and nothing else** is read as the document. -/
theorem read_write {j : Json} (h : j.isVerbatim = true) : read ((write j).map some) = (j, []) := by
  have hread := readValue_write j (2 * ((write j).map some).length + 2) [] h rfl
    (by rw [List.length_map]; omega)
  rwa [List.append_nil] at hread

end Json

end QuizAttempts
