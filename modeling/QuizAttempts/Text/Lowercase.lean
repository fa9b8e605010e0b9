/-
**Lower-casing a text in full Unicode.**

Short answers are compared without regard to case.  Character by character almost suffices; two
letters need more.  The capital I with a dot above becomes two characters, a small i and a combining
dot, and a capital sigma becomes the final sigma where it ends a word.  The second rule looks at the
whole text, so lowering walks along the text and keeps what it has passed, nearest character first.

Main definitions:

* `lowercaseChar` — the lower-case form of one character, sigma apart;
* `lowercaseAfter` — the lower-case form of the rest of a text, given what stands before it;
* `lowercase` — the lower-case form of a text.

Main results:

* `lowercase_nil`, `lowercaseAfter_cons` — the recursion, one character at a time.
-/
import QuizAttempts.Text.Lowercase.Context
import QuizAttempts.Text.Lowercase.Table

set_option autoImplicit false

namespace QuizAttempts

/-- The lower-case form of a character, as it is wherever the character stands. -/
def lowercaseChar (c : Char) : List Char :=
  if c = '\u0130' then ['i', '\u0307'] else [Char.ofNat (lowercasePoint c.toNat)]

/-- The lower-case form of a character between `before`, nearest character first, and `after`. -/
def lowercaseBetween (before : List Char) (c : Char) (after : List Char) : List Char :=
  if c = 'Σ' then
    if endsWord before after then ['ς'] else ['σ']
  else lowercaseChar c

/-- The lower-case form of the text that stands after `before`, nearest character first. -/
def lowercaseAfter : List Char → List Char → List Char
  | _, [] => []
  | before, c :: after => lowercaseBetween before c after ++ lowercaseAfter (c :: before) after

/-- **The lower-case form of a text.** -/
def lowercase (text : List Char) : List Char := lowercaseAfter [] text

@[simp] theorem lowercaseAfter_nil (before : List Char) : lowercaseAfter before [] = [] := rfl

@[simp] theorem lowercaseAfter_cons (before : List Char) (c : Char) (after : List Char) :
    lowercaseAfter before (c :: after) =
      lowercaseBetween before c after ++ lowercaseAfter (c :: before) after := rfl

@[simp] theorem lowercase_nil : lowercase [] = [] := rfl

end QuizAttempts
