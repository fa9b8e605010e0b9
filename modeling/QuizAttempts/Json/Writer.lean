/-
**Writing a document.**

A document is written without white space, its members in their order.  In a string the quote, the
backslash and the control characters are escaped, the latter by their short forms where they have
one, and every other character stands for itself.  A floating-point number is written with the
fewest digits that read back as it, and always with a point or an exponent, so that it is told apart
from an integer.

Main definitions:

* `Json.writeString` — a string with its quotes;
* `Json.writeDecimal` — the numeral of a coefficient and an exponent of ten;
* `Json.write` — a document.

Main results:

* `Json.write_record_nil`, `Json.escapeChar_of_plain` — the empty record, and the characters that
  stand for themselves.
-/
import QuizAttempts.Binary64.Shortest
import QuizAttempts.Json
import QuizAttempts.Text.Numeral

set_option autoImplicit false

namespace QuizAttempts.Json

/-- What stands for a character inside a string. -/
def escapeChar (c : Char) : List Char :=
  match c with
  | '"' => ['\\', '"']
  | '\\' => ['\\', '\\']
  | '\x08' => ['\\', 'b']
  | '\x0c' => ['\\', 'f']
  | '\n' => ['\\', 'n']
  | '\r' => ['\\', 'r']
  | '\t' => ['\\', 't']
  | c =>
      if c.toNat < 0x20 then
        ['\\', 'u', '0', '0', Nat.digitChar (c.toNat / 16), Nat.digitChar (c.toNat % 16)]
      else [c]

/-- A string with its quotes. -/
def writeString (text : List Char) : List Char := '"' :: text.flatMap escapeChar ++ ['"']

/-- Where a numeral stops being written without an exponent: with more places before the point, or
with more zeros behind it. -/
structure NumeralLayout where
  mostPlaces : Int
  mostZeros : Int

/-- A numeral has up to sixteen places before its point, and up to four zeros behind it. -/
def numeralLayout : NumeralLayout := ⟨16, 4⟩

/-- An exponent with its sign, also when it is positive. -/
def writeExponent (exponent : Int) : List Char :=
  (if 0 ≤ exponent then ['+'] else []) ++ writeInt exponent

/-- The digits of a numeral with an exponent: a point stands behind the first digit, if there are
more. -/
def writeScientific (digits : List Char) (exponent : Int) : List Char :=
  let fraction := digits.drop 1
  digits.take 1 ++ (if fraction.isEmpty then [] else '.' :: fraction) ++
    'e' :: writeExponent exponent

/-- **The numeral of a coefficient and an exponent of ten.** -/
def writeDecimal (coefficient : Nat) (exponent : Int) : List Char :=
  let digits := Nat.toDigits 10 coefficient
  let places : Int := digits.length + exponent
  if places > numeralLayout.mostPlaces ∨ places < -numeralLayout.mostZeros then
    writeScientific digits (places - 1)
  else if 0 ≤ exponent then digits ++ List.replicate exponent.toNat '0' ++ ['.', '0']
  else if 0 < places then digits.take places.toNat ++ '.' :: digits.drop places.toNat
  else '0' :: '.' :: List.replicate (-places).toNat '0' ++ digits

/-- A number; one that is not finite, as the numeral past every finite number that stands for it. -/
def writeFloat : Binary64 → List Char
  | .finite negative m =>
      let (coefficient, exponent) := m.shortest
      (if negative then ['-'] else []) ++ writeDecimal coefficient exponent
  | .infinite negative => (if negative then ['-'] else []) ++ ['1', 'e', '4', '0', '0']
  | .nan => ['n', 'u', 'l', 'l']

/-- The text of null. -/
def nullText : List Char := ['n', 'u', 'l', 'l']

/-- The text of a truth value. -/
def boolText (value : Bool) : List Char :=
  if value then ['t', 'r', 'u', 'e'] else ['f', 'a', 'l', 's', 'e']

/-- A string that escapes half of a surrogate pair: the first half, which a reader that gives it up
passes over, or the second. -/
def unusableText (passable : Bool) : List Char :=
  ['"', '\\', 'u', 'd', if passable then '8' else 'c', '0', '0', '"']

/-- The name of a member. -/
def writeName : Option String → List Char
  | some name => writeString name.toList
  | none => unusableText true

mutual

/-- **A document**, up to its break if it has one. -/
def write : Json → List Char
  | .null => nullText
  | .bool value => boolText value
  | .int n => writeInt n
  | .float x => writeFloat x
  | .string s => writeString s.toList
  | .unusable passable => unusableText passable
  | .array items => '[' :: (writeItems items ++ [']'])
  | .object members => '\x7b' :: (writeMembers members ++ ['\x7d'])
  | .broken => []

/-- The items of an array with commas between them. -/
def writeItems : List Json → List Char
  | [] => []
  | item :: items => write item ++ (if items.isEmpty then [] else ',' :: writeItems items)

/-- The members of an object with commas between them. -/
def writeMembers : List (Option String × Json) → List Char
  | [] => []
  | (name, value) :: members =>
      writeName name ++ ':' :: (write value ++
        (if members.isEmpty then [] else ',' :: writeMembers members))

end

@[simp] theorem write_record_nil : write (record []) = ['\x7b', '\x7d'] := by
  rfl

/-- A character that is neither a quote nor a backslash nor a control character stands for itself.
-/
theorem escapeChar_of_plain {c : Char} (hq : c ≠ '"') (hb : c ≠ '\\') (h : 0x20 ≤ c.toNat) :
    escapeChar c = [c] := by
  unfold escapeChar
  split
  · exact absurd rfl hq
  · exact absurd rfl hb
  all_goals first | exact absurd h (by decide) | skip
  rw [if_neg (by omega)]

end QuizAttempts.Json
