/-
**Magnitudes of binary floating-point numbers, and rounding to the nearest one.**

A finite double-precision number is a sign and a magnitude, and a magnitude is a whole number of
*units*, one unit being `2 ^ (-1074)`, the smallest positive double.  What makes arithmetic exact
before it is rounded is that every finite operand is such a whole number: sums are sums of natural
numbers, and products and quotients are quotients of natural numbers.  So one function suffices for
all of them, `Magnitude.nearest?`, which rounds a quotient of natural numbers to the nearest
magnitude, a half going to the neighbour whose significand is even.

Main definitions:

* `nearestEven` — a quotient rounded to the nearest natural number, ties to even;
* `Magnitude` — a significand below `2 ^ 53` and an exponent, normalised so that each value has one
  form;
* `Magnitude.units` — the value of a magnitude, counted in units;
* `Magnitude.nearest?` — the magnitude nearest to a quotient, absent when that quotient is too
  large.

Main results:

* `le_nearestEven`, `nearestEven_le` — a rounded quotient is the floor or its successor;
* `two_pow_le_nearestEven` — a scaled quotient keeps its leading bit, which is what normalisation
  asks for;
* `Magnitude.nearest?_units_mul` — **a magnitude is the nearest to its own units**.
-/

set_option autoImplicit false

namespace QuizAttempts

-- A power of natural numbers is read as one, whatever else is in scope.
attribute [local instance (2000)] instPowNat

/-! ### Rounding a quotient -/

/-- `numerator / denominator` rounded to the nearest natural number; a half goes to the even
neighbour. -/
def nearestEven (numerator denominator : Nat) : Nat :=
  let quotient := numerator / denominator
  let twice := 2 * (numerator % denominator)
  if twice < denominator then quotient
  else if denominator < twice then quotient + 1
  else quotient + quotient % 2

theorem le_nearestEven (n d : Nat) : n / d ≤ nearestEven n d := by
  simp only [nearestEven]
  split
  · exact Nat.le_refl _
  · split <;> omega

theorem nearestEven_le (n d : Nat) : nearestEven n d ≤ n / d + 1 := by
  simp only [nearestEven]
  split
  · omega
  · split
    · exact Nat.le_refl _
    · have := Nat.mod_lt (n / d) (show 0 < 2 by decide)
      omega

/-- A quotient rounds to itself when nothing is left over. -/
theorem nearestEven_of_mod_eq_zero {n d : Nat} (hd : 0 < d) (h : n % d = 0) :
    nearestEven n d = n / d := by
  simp [nearestEven, h, hd]

@[simp] theorem nearestEven_one (n : Nat) : nearestEven n 1 = n := by
  rw [nearestEven_of_mod_eq_zero (by decide) (Nat.mod_one n), Nat.div_one]

/-- A quotient that is divided by so much that `places` bits and the leading one are left keeps the
leading one. -/
theorem two_pow_le_nearestEven {n d places shift : Nat} (hs : shift ≠ 0)
    (h : shift = Nat.log2 (n / d) - places) : 2 ^ places ≤ nearestEven n (d * 2 ^ shift) := by
  have hq : n / d ≠ 0 := by
    intro h0
    rw [h0] at h
    simp at h
    exact hs h
  have hlog : places + shift = Nat.log2 (n / d) := by omega
  have hself : 2 ^ (places + shift) ≤ n / d := by
    rw [hlog]
    exact Nat.log2_self_le hq
  refine Nat.le_trans ?_ (le_nearestEven _ _)
  rw [← Nat.div_div_eq_div_mul, Nat.le_div_iff_mul_le (Nat.two_pow_pos shift), ← Nat.pow_add]
  exact hself

/-! ### Magnitudes -/

/-- The magnitude of a finite number: `significand * 2 ^ exponent` units.  A magnitude with a
positive exponent has its leading bit at place 52, so that no value has two forms. -/
structure Magnitude where
  /-- The bits that count. -/
  significand : Nat
  /-- How many places the significand is shifted. -/
  exponent : Nat
  significand_lt : significand < 2 ^ (53 : Nat) := by omega
  exponent_le : exponent ≤ 2045 := by omega
  normal : exponent ≠ 0 → 2 ^ (52 : Nat) ≤ significand := by omega
  deriving DecidableEq

namespace Magnitude

/-- The value of a magnitude in units of `2 ^ (-1074)`. -/
def units (m : Magnitude) : Nat := m.significand * 2 ^ m.exponent

/-- One unit is `2 ^ (-unitPlaces)`. -/
def unitPlaces : Nat := 1074

/-- How many units make one. -/
def unitsPerOne : Nat := 2 ^ unitPlaces

/-- No units at all. -/
def zero : Magnitude := { significand := 0, exponent := 0 }

@[simp] theorem units_zero : zero.units = 0 := rfl

theorem unitsPerOne_pos : 0 < unitsPerOne := Nat.two_pow_pos unitPlaces

/-- **The magnitude nearest to `numerator / denominator` units.**  The quotient is scaled down until
53 bits are left and then rounded; a round-up to `2 ^ 53` moves to the next exponent.  Absent when
the result would pass the largest magnitude. -/
def nearest? (numerator denominator : Nat) : Option Magnitude :=
  let shift := Nat.log2 (numerator / denominator) - 52
  let rounded := nearestEven numerator (denominator * 2 ^ shift)
  if hlt : rounded < 2 ^ (53 : Nat) then
    if hle : shift ≤ 2045 then
      some {
        significand := rounded
        exponent := shift
        significand_lt := hlt
        exponent_le := hle
        normal := fun hs => two_pow_le_nearestEven hs rfl }
    else none
  else if hle : shift + 1 ≤ 2045 then
    some {
      significand := 2 ^ (52 : Nat)
      exponent := shift + 1
      significand_lt := by decide
      exponent_le := hle
      normal := fun _ => Nat.le_refl _ }
  else none

/-- The units of a magnitude have as many binary places more than 53 as its exponent says. -/
theorem log2_units (m : Magnitude) : Nat.log2 m.units - 52 = m.exponent := by
  have hlt := m.significand_lt
  by_cases he : m.exponent = 0
  · have hu : m.units < 2 ^ (53 : Nat) := by simpa [units, he] using hlt
    by_cases h0 : m.units = 0
    · simp [h0, he]
    · have := (Nat.log2_lt h0).2 hu
      omega
  · have hn := m.normal he
    have h0 : m.units ≠ 0 := by
      have := Nat.mul_pos (show 0 < m.significand by omega) (Nat.two_pow_pos m.exponent)
      exact Nat.ne_of_gt this
    have hlow : 52 + m.exponent ≤ Nat.log2 m.units := by
      rw [Nat.le_log2 h0, Nat.pow_add]
      exact Nat.mul_le_mul_right _ hn
    have hhigh : Nat.log2 m.units < 53 + m.exponent := by
      rw [Nat.log2_lt h0, Nat.pow_add]
      exact Nat.mul_lt_mul_of_pos_right hlt (Nat.two_pow_pos _)
    omega

/-- **A magnitude is the nearest to its own units.** -/
theorem nearest?_units_mul (m : Magnitude) {d : Nat} (hd : 0 < d) :
    nearest? (m.units * d) d = some m := by
  have hshift : Nat.log2 (m.units * d / d) - 52 = m.exponent := by
    rw [Nat.mul_div_cancel _ hd, log2_units]
  have hscaled : m.units * d = m.significand * (d * 2 ^ m.exponent) := by
    rw [units, Nat.mul_assoc, Nat.mul_comm (2 ^ m.exponent)]
  have hpos : 0 < d * 2 ^ m.exponent := Nat.mul_pos hd (Nat.two_pow_pos _)
  have hrounded : nearestEven (m.units * d) (d * 2 ^ m.exponent) = m.significand := by
    rw [hscaled, nearestEven_of_mod_eq_zero hpos (Nat.mul_mod_left ..), Nat.mul_div_cancel _ hpos]
  simp only [nearest?, hshift, hrounded, m.significand_lt, m.exponent_le, dite_true]

/-- A magnitude is zero exactly when it has no units. -/
theorem units_eq_zero {m : Magnitude} : m.units = 0 ↔ m = zero := by
  constructor
  · intro h
    have hs : m.significand = 0 := by
      rcases Nat.mul_eq_zero.1 h with h | h
      · exact h
      · exact absurd h (Nat.ne_of_gt (Nat.two_pow_pos _))
    have he : m.exponent = 0 := by
      by_cases he : m.exponent = 0
      · exact he
      · have := m.normal he
        omega
    cases m
    simp only at hs he
    subst hs he
    rfl
  · rintro rfl
    rfl

end Magnitude

end QuizAttempts
