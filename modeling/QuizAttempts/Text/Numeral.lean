/-
**Integers in decimal.**

Identifiers are 64-bit integers and travel as decimal text: in a token's subject, in a path, in a
setting.  All three places read them alike: an optional sign and at least one ASCII digit, nothing
else.  Leading zeros are harmless, and the value has to fit the width that is asked for, which is a
matter of the reader and not of the text.

Main definitions:

* `isInt64`, `isInt32`, `isUInt64`, `isUInt16` — the ranges of the words that occur;
* `readDigits?`, `readNat?`, `readInt?` — digits, digits with an optional plus, and with any sign;
* `writeInt` — the shortest numeral of an integer;
* `padded` — a numeral with zeros in front up to a width.

Main results:

* `readInt?_writeInt` — **every integer reads back from its numeral**.
-/

set_option autoImplicit false

namespace QuizAttempts

/-! ### Ranges -/

/-- The integer fits a signed 64-bit word. -/
def isInt64 (n : Int) : Bool := -9223372036854775808 ≤ n && n ≤ 9223372036854775807

/-- The integer fits a signed 32-bit word. -/
def isInt32 (n : Int) : Bool := -2147483648 ≤ n && n ≤ 2147483647

/-- The integer fits an unsigned 64-bit word. -/
def isUInt64 (n : Int) : Bool := 0 ≤ n && n ≤ 18446744073709551615

/-- The integer fits an unsigned 16-bit word. -/
def isUInt16 (n : Int) : Bool := 0 ≤ n && n ≤ 65535

/-! ### Reading -/

/-- The value of a nonempty row of ASCII digits. -/
def readDigits? (text : List Char) : Option Nat :=
  if text ≠ [] ∧ text.all Char.isDigit then some (Nat.ofDigitChars 10 text 0) else none

/-- The value of digits after an optional plus sign. -/
def readNat? : List Char → Option Nat
  | '+' :: rest => readDigits? rest
  | text => readDigits? text

/-- The value of digits after an optional sign. -/
def readInt? : List Char → Option Int
  | '+' :: rest => (readDigits? rest).map Int.ofNat
  | '-' :: rest => (readDigits? rest).map fun n => -(n : Int)
  | text => (readDigits? text).map Int.ofNat

/-! ### Writing -/

/-- The shortest numeral of an integer. -/
def writeInt : Int → List Char
  | .ofNat n => Nat.toDigits 10 n
  | .negSucc n => '-' :: Nat.toDigits 10 (n + 1)

/-- The numeral of an integer inside a message. -/
def showInt (n : Int) : String := String.ofList (writeInt n)

/-- The numeral of `n`, with zeros in front up to `width` digits. -/
def padded (width n : Nat) : List Char :=
  let digits := Nat.toDigits 10 n
  List.replicate (width - digits.length) '0' ++ digits

/-! ### Reading what was written -/

@[simp] theorem readDigits?_toDigits (n : Nat) : readDigits? (Nat.toDigits 10 n) = some n := by
  have hd : (Nat.toDigits 10 n).all Char.isDigit = true := by
    rw [List.all_eq_true]
    intro c hc
    exact Nat.isDigit_of_mem_toDigits (by decide) (by decide) hc
  simp [readDigits?, Nat.toDigits_ne_nil, hd]

/-- A digit is no sign. -/
theorem readInt?_of_isDigit {c : Char} {rest : List Char} (h : c.isDigit = true) :
    readInt? (c :: rest) = (readDigits? (c :: rest)).map Int.ofNat := by
  unfold readInt?
  split
  · rename_i heq
    obtain ⟨rfl, _⟩ := List.cons.inj heq
    exact absurd h (by decide)
  · rename_i heq
    obtain ⟨rfl, _⟩ := List.cons.inj heq
    exact absurd h (by decide)
  · rfl

/-- **Every integer reads back from its numeral.** -/
theorem readInt?_writeInt (n : Int) : readInt? (writeInt n) = some n := by
  cases n with
  | ofNat n =>
      simp only [writeInt]
      cases hd : Nat.toDigits 10 n with
      | nil => exact absurd hd Nat.toDigits_ne_nil
      | cons c rest =>
          have hc : c.isDigit = true :=
            Nat.isDigit_of_mem_toDigits (b := 10) (n := n) (by decide) (by decide)
              (hd ▸ List.mem_cons_self ..)
          rw [readInt?_of_isDigit hc, ← hd, readDigits?_toDigits]
          rfl
  | negSucc n =>
      simp only [writeInt, readInt?, readDigits?_toDigits]
      rfl

end QuizAttempts
