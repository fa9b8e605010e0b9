/-
**Reading a document from its text.**

The reader is strict: white space is blank, tab, line feed and carriage return; a numeral has no
leading zero and no bare point; a string has no raw control character.  It always answers with a
document and the text behind it; where the text stops being JSON the document has a break and
nothing is left behind it.  A numeral without fraction and exponent is an integer, except for
`-0`, which only a floating-point number can tell from zero; every other numeral is rounded to the
nearest number.

The text comes as a row of characters with gaps where its bytes are no character.  Inside a string
a gap only means that the string is no text; everywhere else it is a break.

The recursion is bounded by a number that the length of the text pays for: every array or object
that is entered, and every comma, takes a character.

Main definitions:

* `Json.Script` — the text of a document, as far as it is legible;
* `Json.readPieces`, `Json.joinPieces` — the rest of a string after its opening quote, and its text;
* `Json.readNumeral` — a numeral;
* `Json.read` — the document at the start of a text, and the text behind it.

Main results:

* `Json.skipSpace_of_not_space` — white space is skipped and nothing else.
-/
import QuizAttempts.Binary64.Decimal
import QuizAttempts.Json
import QuizAttempts.Text.Numeral

set_option autoImplicit false

namespace QuizAttempts.Json

/-- The text of a document: its characters, and a gap for every byte that belongs to none. -/
abbrev Script : Type := List (Option Char)

/-! ### White space and escapes -/

/-- White space between the tokens of a document. -/
def isSpace (c : Char) : Bool := c == ' ' || c == '\n' || c == '\t' || c == '\r'

/-- The text without the white space at its start. -/
def skipSpace (text : Script) : Script := text.dropWhile (·.any isSpace)

theorem skipSpace_of_not_space {c : Char} (h : isSpace c = false) (text : Script) :
    skipSpace (some c :: text) = some c :: text := by
  simp [skipSpace, h]

/-- Nothing but white space. -/
def isSpaceOnly (text : Script) : Bool := text.all (·.any isSpace)

/-- The value of a hexadecimal digit. -/
def hexDigit? (c : Char) : Option Nat :=
  if '0' ≤ c ∧ c ≤ '9' then some (c.toNat - 48)
  else if 'a' ≤ c ∧ c ≤ 'f' then some (c.toNat - 87)
  else if 'A' ≤ c ∧ c ≤ 'F' then some (c.toNat - 55)
  else none

/-- The value of four hexadecimal digits. -/
def hexQuad? (a b c d : Char) : Option Nat := do
  let a ← hexDigit? a
  let b ← hexDigit? b
  let c ← hexDigit? c
  let d ← hexDigit? d
  some (((a * 16 + b) * 16 + c) * 16 + d)

/-- The character that a backslash and this character stand for. -/
def plainEscape? : Char → Option Char
  | '"' => some '"'
  | '\\' => some '\\'
  | '/' => some '/'
  | 'b' => some '\x08'
  | 'f' => some '\x0c'
  | 'n' => some '\n'
  | 'r' => some '\r'
  | 't' => some '\t'
  | _ => none

/-- The code point is the first half of a surrogate pair. -/
def isHighSurrogate (point : Nat) : Bool := 0xD800 ≤ point && point < 0xDC00

/-- The code point is the second half of a surrogate pair. -/
def isLowSurrogate (point : Nat) : Bool := 0xDC00 ≤ point && point < 0xE000

/-- The character of a surrogate pair. -/
def ofSurrogates (high low : Nat) : Char :=
  Char.ofNat (0x10000 + (high - 0xD800) * 0x400 + (low - 0xDC00))

/-- What stands for one code unit of a string: a character, a code point in hexadecimal, or bytes
that are neither. -/
inductive Piece where
  | char (c : Char)
  | escaped (point : Nat)
  | gap
  deriving DecidableEq

/-- **The rest of a string after its opening quote**: its pieces, and the text behind its closing
quote; absent when it does not come to an end. -/
def readPieces : Script → Option (List Piece × Script)
  | [] => none
  | none :: rest => do
      let (pieces, behind) ← readPieces rest
      some (.gap :: pieces, behind)
  | some '"' :: behind => some ([], behind)
  | some '\\' :: some 'u' :: some a :: some b :: some c :: some d :: rest => do
      let point ← hexQuad? a b c d
      let (pieces, behind) ← readPieces rest
      some (.escaped point :: pieces, behind)
  | some '\\' :: some c :: rest => do
      let c ← plainEscape? c
      let (pieces, behind) ← readPieces rest
      some (.char c :: pieces, behind)
  | some c :: rest =>
      if c.toNat < 0x20 ∨ c = '\\' then none
      else do
        let (pieces, behind) ← readPieces rest
        some (.char c :: pieces, behind)

/-- **The text of a row of pieces**: the two halves of a surrogate pair are one character; half of
a pair alone is none, and neither is a gap. -/
def joinPieces : List Piece → Option (List Char)
  | [] => some []
  | .gap :: _ => none
  | .char c :: pieces => (joinPieces pieces).map (c :: ·)
  | .escaped point :: .escaped low :: pieces =>
      if isHighSurrogate point then
        if isLowSurrogate low then (joinPieces pieces).map (ofSurrogates point low :: ·) else none
      else if isLowSurrogate point then none
      else (joinPieces (.escaped low :: pieces)).map (Char.ofNat point :: ·)
  | .escaped point :: pieces =>
      if isHighSurrogate point ∨ isLowSurrogate point then none
      else (joinPieces pieces).map (Char.ofNat point :: ·)

/-- A reader that wants the text of the pieces comes out behind the closing quote.  It gives up at
a half of a surrogate pair that stands alone: at a second half at once, but at a first half only
after the next character, which must then be the quote.  Gaps it notices behind the quote. -/
def isPassedOver : List Piece → Bool
  | [] => true
  | .escaped point :: .escaped low :: pieces =>
      if isHighSurrogate point then isLowSurrogate low && isPassedOver pieces
      else !isLowSurrogate point && isPassedOver (.escaped low :: pieces)
  | .escaped point :: pieces =>
      if isHighSurrogate point then pieces.isEmpty
      else !isLowSurrogate point && isPassedOver pieces
  | _ :: pieces => isPassedOver pieces

/-- The string of a row of pieces. -/
def ofPieces (pieces : List Piece) : Json :=
  match joinPieces pieces with
  | some text => .string (String.ofList text)
  | none => .unusable (isPassedOver pieces)

/-! ### Numerals -/

/-- The digits at the start of a text, and the text behind them. -/
def splitDigits : Script → List Char × Script
  | some c :: rest =>
      if c.isDigit then
        let (digits, behind) := splitDigits rest
        (c :: digits, behind)
      else ([], some c :: rest)
  | text => ([], text)

/-- The fraction digits of a numeral: none without a point, at least one after a point. -/
def readFraction? : Script → Option (List Char × Script)
  | some '.' :: rest =>
      let (digits, behind) := splitDigits rest
      if digits = [] then none else some (digits, behind)
  | text => some ([], text)

/-- The exponent of a numeral after its mark: an optional sign and at least one digit. -/
def readSigned? (text : Script) : Option (Int × Script) :=
  let (negative, text) := match text with
    | some '-' :: rest => (true, rest)
    | some '+' :: rest => (false, rest)
    | _ => (false, text)
  let (digits, behind) := splitDigits text
  (readDigits? digits).map fun n => (if negative then -(n : Int) else n, behind)

/-- The exponent of a numeral, absent without a mark. -/
def readExponent? : Script → Option (Option Int × Script)
  | some 'e' :: rest | some 'E' :: rest =>
      (readSigned? rest).map fun (n, behind) => (some n, behind)
  | text => some (none, text)

/-- A number if it is finite.  A numeral past every finite number is given up behind its last digit,
unless its exponent is so large that it is given up before. -/
def ofNumeral (value : Json) (x : Binary64) (exponent : Int) : Json :=
  if x.isFinite then value else .unusable (exponent / 10 ≤ 2147483647)

/-- **A numeral** and the text behind it. -/
def readNumeral (text : Script) : Option (Json × Script) := do
  let (negative, text) := match text with
    | some '-' :: rest => (true, rest)
    | _ => (false, text)
  let (digits, behind) := splitDigits text
  let whole ← readDigits? digits
  if digits.head? = some '0' ∧ digits ≠ ['0'] then none
  else
    let (fraction, behind) ← readFraction? behind
    let (exponent, behind) ← readExponent? behind
    if fraction = [] ∧ exponent = none ∧ ¬ (negative = true ∧ whole = 0) then
      let n : Int := if negative then -(whole : Int) else whole
      some (ofNumeral (.int n) (Binary64.ofInt n) 0, behind)
    else
      let coefficient := Nat.ofDigitChars 10 (digits ++ fraction) 0
      let exponent := exponent.getD 0
      let x := Binary64.ofDecimal negative coefficient (exponent - fraction.length)
      some (ofNumeral (.float x) x exponent, behind)

/-! ### Documents -/

mutual

/-- The document at the start of a text, and the text behind it. -/
def readValue : Nat → Script → Json × Script
  | 0, _ => (.broken, [])
  | bound + 1, text =>
      match skipSpace text with
      | some '{' :: rest =>
          match skipSpace rest with
          | some '}' :: behind => (.object [], behind)
          | _ =>
              let (members, behind) := readMembers bound rest
              (.object members, behind)
      | some '[' :: rest =>
          match skipSpace rest with
          | some ']' :: behind => (.array [], behind)
          | _ =>
              let (items, behind) := readItems bound rest
              (.array items, behind)
      | some '"' :: rest =>
          match readPieces rest with
          | some (pieces, behind) => (ofPieces pieces, behind)
          | none => (.broken, [])
      | some 't' :: some 'r' :: some 'u' :: some 'e' :: behind => (.bool true, behind)
      | some 'f' :: some 'a' :: some 'l' :: some 's' :: some 'e' :: behind => (.bool false, behind)
      | some 'n' :: some 'u' :: some 'l' :: some 'l' :: behind => (.null, behind)
      | rest =>
          match readNumeral rest with
          | some (numeral, behind) => (numeral, behind)
          | none => (.broken, [])

/-- The items of an array that is not empty, up to its closing bracket. -/
def readItems : Nat → Script → List Json × Script
  | 0, _ => ([.broken], [])
  | bound + 1, text =>
      let (item, behind) := readValue bound text
      match skipSpace behind with
      | some ',' :: rest =>
          let (items, behind) := readItems bound rest
          (item :: items, behind)
      | some ']' :: behind => ([item], behind)
      | _ => ([item, .broken], [])

/-- The members of an object that is not empty, up to its closing brace. -/
def readMembers : Nat → Script → List (Option String × Json) × Script
  | 0, _ => ([(none, .broken)], [])
  | bound + 1, text =>
      match skipSpace text with
      | some '"' :: rest =>
          match readPieces rest with
          | none => ([(none, .broken)], [])
          | some (pieces, behind) =>
              let name := (joinPieces pieces).map String.ofList
              match skipSpace behind with
              | some ':' :: rest =>
                  let (value, behind) := readValue bound rest
                  match skipSpace behind with
                  | some ',' :: rest =>
                      let (members, behind) := readMembers bound rest
                      ((name, value) :: members, behind)
                  | some '}' :: behind => ([(name, value)], behind)
                  | _ => ([(name, value), (none, .broken)], [])
              | _ => ([(name, .broken)], [])
      | _ => ([(none, .broken)], [])

end

/-- **The document at the start of a text**, and the text behind it. -/
def read (text : Script) : Json × Script := readValue (2 * text.length + 2) text

end QuizAttempts.Json
