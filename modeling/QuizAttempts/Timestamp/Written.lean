/-
**The written form of a moment.**

Moments are written as `2026-01-01T00:00:00Z`: date, `T`, time of day and `Z` for universal time,
with as many fraction digits as are needed out of none, three, six and nine.  A year outside the
four digits gets a sign.  What is read is more generous: white space before each number and around
the separators, numbers without their leading zeros, a small `t` or a blank in place of the `T`,
any number of fraction digits of which nine count, and the name `UTC`, a `Z` or an offset from
universal time, which is taken off.  A sixtieth second is a leap second.  A date that is not in
the calendar is refused.

Main definitions:

* `Timestamp.write` — the written form;
* `Timestamp.read?` — the moment that a text denotes.

Main results:

* `Timestamp.takeDigits?_nil` — a number has a digit at least.
-/
import QuizAttempts.Text.Blank
import QuizAttempts.Text.Numeral
import QuizAttempts.Timestamp

set_option autoImplicit false

namespace QuizAttempts.Timestamp

-- A power of natural numbers is read as one, whatever else is in scope.
attribute [local instance (2000)] instPowNat

/-! ### Writing -/

/-- A year: four digits, or a sign and at least four digits. -/
def writeYear (year : Int) : List Char :=
  if 0 ≤ year ∧ year ≤ 9999 then padded 4 year.toNat
  else (if year < 0 then '-' else '+') :: padded 4 year.natAbs

/-- The fraction of a second, with the fewest of no, three, six and nine digits that are exact. -/
def writeFraction (nanos : Nat) : List Char :=
  if nanos = 0 then []
  else if nanos % 1000000 = 0 then '.' :: padded 3 (nanos / 1000000)
  else if nanos % 1000 = 0 then '.' :: padded 6 (nanos / 1000)
  else '.' :: padded 9 nanos

/-- **The written form of a moment**, in universal time. -/
def write (t : Timestamp) : List Char :=
  let date := Date.ofDay (t.seconds / secondsPerDay)
  let second := t.secondOfDay.toNat
  let leap := if t.isLeap then 1 else 0
  writeYear date.year ++ '-' :: padded 2 date.month ++ '-' :: padded 2 date.day ++
    'T' :: padded 2 (second / 3600) ++ ':' :: padded 2 (second / 60 % 60) ++
    ':' :: padded 2 (second % 60 + leap) ++ writeFraction (t.nanos - leap * nanosPerSecond) ++ ['Z']

/-! ### Reading -/

/-- The value of the digits at the start of a text, at most `limit` of them and at least one, and
what follows them. -/
def takeDigits? (limit : Nat) (text : List Char) : Option (Nat × List Char) :=
  let digits := (text.take limit).takeWhile Char.isDigit
  (readDigits? digits).map fun n => (n, text.drop digits.length)

@[simp] theorem takeDigits?_nil (limit : Nat) : takeDigits? limit [] = none := by
  simp [takeDigits?, readDigits?]

/-- A number of at most two digits that lies between `low` and `high`, after white space. -/
def takePart? (low high : Nat) (text : List Char) : Option (Nat × List Char) :=
  (takeDigits? 2 (trimStart text)).filter fun part => low ≤ part.1 && part.1 ≤ high

/-- A year, after white space: up to four digits, or a sign and any number of them. -/
def takeYear? (text : List Char) : Option (Int × List Char) :=
  match trimStart text with
  | '-' :: rest => (takeDigits? rest.length rest).map fun part => (-(part.1 : Int), part.2)
  | '+' :: rest => (takeDigits? rest.length rest).map fun part => ((part.1 : Int), part.2)
  | rest => (takeDigits? 4 rest).map fun part => ((part.1 : Int), part.2)

/-- What follows a given character, after white space. -/
def skip? (mark : Char) (text : List Char) : Option (List Char) :=
  match trimStart text with
  | c :: rest => if c = mark then some rest else none
  | [] => none

/-- The nanoseconds that a fraction denotes, none when there is no fraction.  Digits past the ninth
do not count. -/
def readFraction : List Char → Option (Nat × List Char)
  | '.' :: rest =>
      let digits := rest.takeWhile Char.isDigit
      (readDigits? (digits.take 9)).map fun n =>
        (n * 10 ^ (9 - (digits.take 9).length), rest.drop digits.length)
  | text => some (0, text)

/-- Two digits of which the first is below `bound`. -/
def takeTwo? (bound : Nat) : List Char → Option (Nat × List Char)
  | a :: b :: rest =>
      (readDigits? [a, b]).bind fun n => if n < bound then some (n, rest) else none
  | _ => none

/-- The seconds that an offset is ahead of universal time, and what follows it: `Z`, `UTC`, or a
sign, two digits of hours, colons or blanks, and two digits of minutes. -/
def readOffset? (text : List Char) : Option (Int × List Char) :=
  if sameLetters (text.take 3) "utc".toList then some (0, text.drop 3)
  else match text with
    | 'Z' :: rest | 'z' :: rest => some (0, rest)
    | sign :: rest =>
        if sign = '+' ∨ sign = '-' ∨ sign = '\u2212' then do
          let (hours, rest) ← takeTwo? 100 rest
          let (minutes, rest) ← takeTwo? 60 (rest.dropWhile fun c => c == ':' || isBlank c)
          let ahead : Int := hours * 3600 + minutes * 60
          some (if sign = '+' then ahead else -ahead, rest)
        else none
    | [] => none

/-- A date: year, month and day with hyphens between them. -/
def readDate? (text : List Char) : Option (Date × List Char) := do
  let (year, rest) ← takeYear? text
  let rest ← skip? '-' rest
  let (month, rest) ← takePart? 1 12 rest
  let rest ← skip? '-' rest
  let (day, rest) ← takePart? 1 31 rest
  some (⟨year, month, day⟩, rest)

/-- A time of day in seconds and nanoseconds, a billion of them added in a sixtieth second. -/
def readTime? (text : List Char) : Option (Int × Nat × List Char) := do
  let (hour, rest) ← takePart? 0 23 text
  let rest ← skip? ':' rest
  let (minute, rest) ← takePart? 0 59 rest
  let rest ← skip? ':' rest
  let (second, rest) ← takePart? 0 60 rest
  let (nanos, rest) ← readFraction rest
  let leap := if second = 60 then 1 else 0
  some ((hour * 3600 + minute * 60 + (second - leap) : Nat), nanos + leap * nanosPerSecond, rest)

/-- **The moment that a text denotes.** -/
def read? (text : List Char) : Option Timestamp := do
  let (date, rest) ← readDate? text
  let rest ← match rest with
    | 'T' :: rest | 't' :: rest | ' ' :: rest => some rest
    | _ => none
  let (second, nanos, rest) ← readTime? rest
  let (ahead, rest) ← readOffset? (trimStart rest)
  if date.isValid ∧ isBlankText rest ∧ ahead.natAbs < 86400 then
    let here := date.toDay * secondsPerDay + second
    (ofParts? here nanos).bind fun _ => ofParts? (here - ahead) nanos
  else none

end QuizAttempts.Timestamp
