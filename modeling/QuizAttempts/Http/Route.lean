/-
**Places.**

A path falls into segments between slashes.  Some of the segments are fixed words and the others
are parameters; which words stand where decides what place the path names.  A parameter is taken as
it stands; turning it into a number means undoing the escapes in it, reading the bytes as a text and
the text as a 64-bit integer.

Main definitions:

* `Http.Place` — what paths name;
* `Http.Place.ofPath?` — **the place of a path**, with its parameters;
* `Http.Place.allows` — the methods that a place knows;
* `Http.readParameter?` — the number that a parameter stands for.

Main results:

* `Http.unescape_of_plain` — a parameter without escapes stands for itself.
-/
import QuizAttempts.Text.Numeral
import QuizAttempts.Text.Pieces
import QuizAttempts.Text.Utf8

set_option autoImplicit false

namespace QuizAttempts.Http

/-! ### Places -/

/-- What a path names, with the parameters as they stand in it. -/
inductive Place where
  | take (quiz : List Char)
  | attempts (quiz : List Char)
  | attempt (quiz attempt : List Char)
  | submit (quiz attempt : List Char)
  | publish (quiz : List Char)
  deriving DecidableEq

/-- The place that the segments behind the common root name.  A last parameter may not be empty. -/
def Place.ofSegments? : List String → Option Place
  | [quiz, "take"] => some (.take quiz.toList)
  | [quiz, "attempts"] => some (.attempts quiz.toList)
  | [quiz, "attempts", id] =>
      if id.isEmpty then none else some (.attempt quiz.toList id.toList)
  | [quiz, "attempts", id, "submit"] => some (.submit quiz.toList id.toList)
  | [quiz, "publish"] => some (.publish quiz.toList)
  | _ => none

/-- **The place that a path names.** -/
def Place.ofPath? (path : List Char) : Option Place :=
  match (pieces (· == '/') path).map String.ofList with
  | "" :: "api" :: "quizzes" :: segments => ofSegments? segments
  | _ => none

/-- Methods that read, one of them only to see whether it could. -/
def isReading (method : String) : Bool := method == "GET" || method == "HEAD"

/-- The methods that a place knows. -/
def Place.allows (place : Place) (method : String) : Bool :=
  match place with
  | .take _ | .attempt _ _ => isReading method
  | .attempts _ => isReading method || method == "POST"
  | .submit _ _ | .publish _ => method == "POST"

/-! ### Parameters -/

/-- The value of a hexadecimal digit. -/
def hexValue? (c : Char) : Option Nat :=
  if '0' ≤ c ∧ c ≤ '9' then some (c.toNat - 48)
  else if 'a' ≤ c ∧ c ≤ 'f' then some (c.toNat - 87)
  else if 'A' ≤ c ∧ c ≤ 'F' then some (c.toNat - 55)
  else none

/-- The byte of two hexadecimal digits. -/
def hexByte? (high low : Char) : Option UInt8 := do
  let h ← hexValue? high
  let l ← hexValue? low
  return UInt8.ofNat (16 * h + l)

/-- The bytes of a parameter: a percent sign with two digits is a byte, all else stands for
itself. -/
def unescape : List Char → List UInt8
  | '%' :: high :: low :: rest =>
      match hexByte? high low with
      | some byte => byte :: unescape rest
      | none => String.utf8EncodeChar '%' ++ unescape (high :: low :: rest)
  | c :: rest => String.utf8EncodeChar c ++ unescape rest
  | [] => []
termination_by text => text.length

/-- **The number that a parameter stands for.** -/
def readParameter? (parameter : List Char) : Option Int :=
  match readUtf8? (unescape parameter) with
  | some text => (readInt? text).filter isInt64
  | none => none

theorem unescape_of_plain {text : List Char} (h : '%' ∉ text) : unescape text = utf8Bytes text := by
  fun_induction unescape text with
  | case1 => exact absurd (List.mem_cons_self ..) h
  | case2 => exact absurd (List.mem_cons_self ..) h
  | case3 c rest _ ih =>
      rw [ih fun hr => h (List.mem_cons_of_mem _ hr)]
      rfl
  | case4 => rfl

end QuizAttempts.Http
