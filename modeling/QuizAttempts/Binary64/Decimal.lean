/-
**Decimal numerals as double-precision numbers.**

A numeral is a coefficient times a power of ten.  Reading it gives the nearest number; the two
guards below answer at once where the exponent alone decides, so that a numeral with a huge exponent
costs nothing, and elsewhere the exact value is rounded.

Main definitions:

* `Binary64.ofDecimal` — the number nearest to a decimal.

Main results:

* `Binary64.ofDecimal_negSucc` — when a numeral with decimal places is rounded;
* `Binary64.ofDecimal_zero` — a coefficient of zero is zero, whatever its exponent.
-/
import QuizAttempts.Binary64

set_option autoImplicit false

namespace QuizAttempts.Binary64

-- A power of natural numbers is read as one, whatever else is in scope.
attribute [local instance (2000)] instPowNat

/-- **The number nearest to `coefficient * 10 ^ exponent`.**  From `10 ^ 400` on every nonzero
numeral is infinite; a numeral that is smaller than half a unit is zero. -/
def ofDecimal (negative : Bool) (coefficient : Nat) : Int → Binary64
  | .ofNat e =>
      if coefficient = 0 then finite negative Magnitude.zero
      else if 400 ≤ e then infinite negative
      else ofRatio negative (coefficient * 10 ^ e * Magnitude.unitsPerOne) 1
  | .negSucc e =>
      if coefficient = 0 ∨ Nat.log2 coefficient + Magnitude.unitPlaces + 2 ≤ 3 * (e + 1) then
        finite negative Magnitude.zero
      else ofRatio negative (coefficient * Magnitude.unitsPerOne) (10 ^ (e + 1))

/-- A numeral with decimal places is rounded unless it is clearly smaller than half a unit. -/
theorem ofDecimal_negSucc {coefficient e : Nat} (negative : Bool) (h : coefficient ≠ 0)
    (hlog : 3 * (e + 1) < Nat.log2 coefficient + Magnitude.unitPlaces + 2) :
    ofDecimal negative coefficient (.negSucc e) =
      ofRatio negative (coefficient * Magnitude.unitsPerOne) (10 ^ (e + 1)) := by
  rw [ofDecimal, if_neg]
  rintro (h0 | h0)
  · exact h h0
  · exact absurd hlog (Nat.not_lt.2 h0)

@[simp] theorem ofDecimal_zero (negative : Bool) (exponent : Int) :
    ofDecimal negative 0 exponent = finite negative Magnitude.zero := by
  cases exponent <;> simp [ofDecimal]

end QuizAttempts.Binary64
