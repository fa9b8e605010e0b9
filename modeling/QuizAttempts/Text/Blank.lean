/-
**White space, and texts without it at their ends.**

Answers, keys and option texts are judged by what is left when white space is taken from both ends.
White space means the property *White_Space* of Unicode, which is wider than the blanks of ASCII and
narrower than what is sometimes stripped: the zero-width space, the byte-order mark and the
information separators are not in it.

Main definitions:

* `isBlank` — the twenty-five characters of the property;
* `trimStart`, `trim` — a text without the white space at its start, or at both ends;
* `isBlankText` — a text of white space only;
* `lowerAscii`, `sameLetters` — comparison that ignores the case of ASCII letters only;
* `truth?` — the boolean that a text spells.

Main results:

* `isBlank_of_isWhitespace` — core's white space is white space here;
* `trimStart_of_not_blank`, `trimStart_cons_blank` — the two cases of trimming.
-/

set_option autoImplicit false

namespace QuizAttempts

/-- The character is white space. -/
def isBlank (c : Char) : Bool :=
  let n := c.toNat
  (0x9 ≤ n && n ≤ 0xD) || n == 0x20 || n == 0x85 || n == 0xA0 || n == 0x1680 ||
    (0x2000 ≤ n && n ≤ 0x200A) || n == 0x2028 || n == 0x2029 || n == 0x202F || n == 0x205F ||
    n == 0x3000

theorem isBlank_of_isWhitespace {c : Char} (h : c.isWhitespace = true) : isBlank c = true := by
  simp only [Char.isWhitespace, Bool.or_eq_true, decide_eq_true_eq] at h
  rcases h with ((rfl | rfl) | rfl) | rfl <;> decide

/-- The text without the white space at its start. -/
def trimStart (text : List Char) : List Char := text.dropWhile isBlank

@[simp] theorem trimStart_nil : trimStart [] = [] := rfl

theorem trimStart_cons_blank {c : Char} (h : isBlank c = true) (text : List Char) :
    trimStart (c :: text) = trimStart text := by
  simp [trimStart, h]

theorem trimStart_of_not_blank {c : Char} (h : isBlank c = false) (text : List Char) :
    trimStart (c :: text) = c :: text := by
  simp [trimStart, h]

/-- **The text without the white space at its ends.** -/
def trim (text : List Char) : List Char :=
  (trimStart (trimStart text).reverse).reverse

@[simp] theorem trim_nil : trim [] = [] := rfl

/-- The text holds nothing but white space. -/
def isBlankText (text : List Char) : Bool := text.all isBlank

/-! ### Texts that spell a boolean -/

/-- The character with an ASCII capital made small. -/
def lowerAscii (c : Char) : Char :=
  if 'A' ≤ c ∧ c ≤ 'Z' then Char.ofNat (c.toNat + 32) else c

/-- The texts agree up to the case of ASCII letters. -/
def sameLetters (s t : List Char) : Bool := s.map lowerAscii == t.map lowerAscii

/-- **The boolean that a text spells**: `true` or `false`, in any case, with white space around. -/
def truth? (text : List Char) : Option Bool :=
  if sameLetters (trim text) "true".toList then some true
  else if sameLetters (trim text) "false".toList then some false
  else none

end QuizAttempts
