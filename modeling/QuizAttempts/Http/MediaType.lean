/-
**Media types.**

A media type is a type, a slash and a subtype, all of a small set of characters, and then perhaps
parameters behind semicolons.  A subtype may end in a suffix behind its last plus sign.  What
matters here is whether a text is a media type at all, and whether it says that what comes with it
is JSON.

A parameter has a name, an equals sign and a value, which is a row of plain characters or stands
between quotes.  A plain value may be empty only at the very end; the first character between
quotes may be a quote.

Main definitions:

* `Http.MediaType` — type, subtype and suffix;
* `Http.MediaType.read?` — **reading one**;
* `Http.isJsonType` — the text says JSON.

Main results:

* `Http.readPlain_nil` — a plain value may end with the text.
-/
import QuizAttempts.Text.Blank

set_option autoImplicit false

namespace QuizAttempts.Http

/-- The signs that may stand in names beside letters and digits. -/
def nameSigns : List Char :=
  ['!', '#', '$', '%', '&', '\'', '*', '+', '-', '.', '^', '_', Char.ofNat 96, '|', '~']

/-- A character that may stand in names. -/
def isNameChar (c : Char) : Bool := c.isAlphanum || nameSigns.contains c

/-- A character that may stand between quotes: ASCII, but no control character. -/
def isQuotable (c : Char) : Bool := 31 < c.toNat && c.toNat < 127

/-- A media type, its parameters apart. -/
structure MediaType where
  type : List Char
  subtype : List Char
  suffix : Option (List Char)
  deriving DecidableEq

/-! ### Parameters -/

/-- Passes the rest of a plain value over, up to the semicolon behind it. -/
def readPlain : List Char → Option (List Char)
  | [] => some []
  | ';' :: rest => some rest
  | c :: rest => if isNameChar c then readPlain rest else none

/-- Passes blanks behind a quoted value over, up to a semicolon. -/
def readAfterQuote : List Char → Option (List Char)
  | [] => some []
  | ';' :: rest => some rest
  | ' ' :: rest => readAfterQuote rest
  | _ => none

/-- Passes the rest of a quoted value over, up to what follows its closing quote. -/
def readQuoted : List Char → Option (List Char)
  | [] => none
  | '"' :: rest => readAfterQuote rest
  | c :: rest => if isQuotable c then readQuoted rest else none

/-- Passes a value over. -/
def readParameterValue : List Char → Option (List Char)
  | [] => some []
  | '"' :: c :: rest => if isQuotable c then readQuoted rest else none
  | c :: rest => if isNameChar c then readPlain rest else none

/-- Passes the rest of a name over, up to what follows its equals sign. -/
def readParameterName : List Char → Option (List Char)
  | [] => none
  | '=' :: rest => some rest
  | c :: rest => if isNameChar c then readParameterName rest else none

/-- The text is a row of parameters; `fuel` is more than its length. -/
def areParameters : Nat → List Char → Bool
  | 0, _ => false
  | _ + 1, [] => true
  | fuel + 1, ' ' :: rest => areParameters fuel rest
  | fuel + 1, c :: rest =>
      if isNameChar c then
        match (readParameterName rest).bind readParameterValue with
        | some rest => areParameters fuel rest
        | none => false
      else false

@[simp] theorem readPlain_nil : readPlain [] = some [] := rfl

/-! ### The whole -/

/-- Splits a subtype at its last plus sign, before which something has to stand. -/
def splitSuffix (text : List Char) : List Char × Option (List Char) :=
  let suffix := (text.reverse.takeWhile (· != '+')).reverse
  let before := text.take (text.length - suffix.length - 1)
  if suffix.length = text.length || before.isEmpty then (text, none) else (before, some suffix)

/-- **A media type.** -/
def MediaType.read? (text : List Char) : Option MediaType :=
  let type := text.takeWhile isNameChar
  match text.dropWhile isNameChar with
  | '/' :: rest =>
      if type.isEmpty then none
      else
        let whole := rest.takeWhile isNameChar
        let (subtype, suffix) := splitSuffix whole
        match rest.dropWhile isNameChar with
        | [] => some ⟨type, subtype, suffix⟩
        | ';' :: parameters =>
            if !whole.isEmpty && areParameters (parameters.length + 1) parameters then
              some ⟨type, subtype, suffix⟩
            else none
        | _ => none
  | _ => none

/-- The word for JSON. -/
def jsonWord : List Char := ['j', 's', 'o', 'n']

/-- The word for what programs exchange. -/
def applicationWord : List Char := ['a', 'p', 'p', 'l', 'i', 'c', 'a', 't', 'i', 'o', 'n']

/-- **The text says that what comes with it is JSON.** -/
def isJsonType (text : List Char) : Bool :=
  match MediaType.read? text with
  | some t =>
      sameLetters t.type applicationWord &&
        (sameLetters t.subtype jsonWord || t.suffix.any (sameLetters · jsonWord))
  | none => false

end QuizAttempts.Http
