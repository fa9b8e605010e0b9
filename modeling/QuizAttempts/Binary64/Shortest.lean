/-
**The fewest digits that tell a number from all others.**

Many decimals are nearest to the same number, so a number can be written with fewer digits than its
exact value has.  Every magnitude is a whole multiple of `10 ^ (-1074)`.  On the grid of the whole
multiples of a power of ten only the two neighbours of the value need to be tried, since between
a decimal that reads as the number and the number itself all decimals do.  The search begins on a
grid that is coarser than the value and goes on to finer ones; the first on which a neighbour reads
as the number has the fewest digits, and there the nearer neighbour is preferred.  On the finest
grid nothing is lost.

Main definitions:

* `Magnitude.tenths` — the value of a magnitude on the finest grid;
* `Magnitude.candidates` — the neighbours of a magnitude on a grid;
* `Magnitude.shortest` — **the coefficient and the exponent of ten with the fewest digits**.

Main results:

* `Magnitude.ofDecimal_tenths` — on the finest grid nothing is lost;
* `Magnitude.ofDecimal_shortest` — **the fewest digits read back as the number**.
-/
import QuizAttempts.Binary64.Decimal

set_option autoImplicit false

namespace QuizAttempts.Magnitude

-- A power of natural numbers is read as one, whatever else is in scope.
attribute [local instance (2000)] instPowNat

/-- The value of a magnitude as a whole multiple of `10 ^ (-1074)`. -/
def tenths (m : Magnitude) : Nat := m.units * 5 ^ unitPlaces

/-- The power of ten whose multiples are a grid. -/
def gridExponent (grid : Nat) : Int := (grid : Int) - unitPlaces

/-- A coefficient on a grid reads as the magnitude. -/
def readsBack (m : Magnitude) (grid coefficient : Nat) : Bool :=
  Binary64.ofDecimal false coefficient (gridExponent grid) == .finite false m

/-- The neighbours of a magnitude on a grid, the nearer one first; from the middle between both the
even one is preferred. -/
def candidates (m : Magnitude) (grid : Nat) : List Nat :=
  let below := m.tenths / 10 ^ grid
  [nearestEven m.tenths (10 ^ grid), below, below + 1]

/-- The coefficient and the exponent of ten that the search finds from a grid on. -/
def shortestFrom (m : Magnitude) : Nat → Nat × Int
  | 0 => (m.tenths, gridExponent 0)
  | grid + 1 =>
      match (m.candidates (grid + 1)).find? (m.readsBack (grid + 1)) with
      | some coefficient => (coefficient, gridExponent (grid + 1))
      | none => m.shortestFrom grid

/-- **The coefficient and the exponent of ten with the fewest digits** that read as the
magnitude. -/
def shortest (m : Magnitude) : Nat × Int :=
  if m.units = 0 then (0, 0) else m.shortestFrom (Nat.toDigits 10 m.tenths).length

@[simp] theorem shortest_zero : zero.shortest = (0, 0) := rfl

theorem tenths_ne_zero {m : Magnitude} (h : m.units ≠ 0) : m.tenths ≠ 0 :=
  Nat.ne_of_gt (Nat.mul_pos (Nat.pos_of_ne_zero h) (Nat.pow_pos (by decide)))

theorem le_log2_tenths {m : Magnitude} (h : m.units ≠ 0) :
    2 * unitPlaces ≤ Nat.log2 m.tenths := by
  rw [Nat.le_log2 (tenths_ne_zero h), Nat.pow_mul, tenths, ← Nat.one_mul ((2 ^ 2) ^ unitPlaces)]
  exact Nat.mul_le_mul (Nat.pos_of_ne_zero h) (Nat.pow_le_pow_left (by decide) _)

theorem five_pow_mul_two_pow (n places : Nat) : n * 5 ^ places * 2 ^ places = n * 10 ^ places := by
  rw [Nat.mul_assoc, ← Nat.mul_pow]

theorem tenths_mul_unitsPerOne (m : Magnitude) :
    m.tenths * unitsPerOne = m.units * 10 ^ unitPlaces :=
  five_pow_mul_two_pow m.units unitPlaces

theorem ofDecimal_tenths_negSucc {m : Magnitude} (h : m.units ≠ 0) {e : Nat}
    (he : e + 1 = unitPlaces) :
    Binary64.ofDecimal false m.tenths (.negSucc e) = .finite false m := by
  have hlog := le_log2_tenths h
  have hpos : 0 < 10 ^ unitPlaces := Nat.pow_pos (by decide)
  rw [Binary64.ofDecimal_negSucc false (tenths_ne_zero h) (by omega), tenths_mul_unitsPerOne, he,
    Binary64.ofRatio_units_mul false m hpos]

/-- On the finest grid nothing is lost. -/
theorem ofDecimal_tenths (m : Magnitude) :
    Binary64.ofDecimal false m.tenths (gridExponent 0) = .finite false m := by
  by_cases h : m.units = 0
  · obtain rfl := units_eq_zero.1 h
    simp [tenths]
  · exact ofDecimal_tenths_negSucc h rfl

theorem ofDecimal_shortestFrom (m : Magnitude) (grid : Nat) :
    Binary64.ofDecimal false (m.shortestFrom grid).1 (m.shortestFrom grid).2 =
      .finite false m := by
  induction grid with
  | zero => exact ofDecimal_tenths m
  | succ grid ih =>
      rw [shortestFrom]
      split
      · rename_i coefficient h
        have := List.find?_some h
        exact beq_iff_eq.1 this
      · exact ih

/-- **The fewest digits read back as the number.** -/
theorem ofDecimal_shortest (m : Magnitude) :
    Binary64.ofDecimal false m.shortest.1 m.shortest.2 = .finite false m := by
  rw [shortest]
  split
  · rename_i h
    obtain rfl := units_eq_zero.1 h
    simp
  · exact ofDecimal_shortestFrom m _

end QuizAttempts.Magnitude
