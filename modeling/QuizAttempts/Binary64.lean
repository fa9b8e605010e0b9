/-
**Double-precision numbers, defined by exact arithmetic and one rounding.**

Points, scores and percentages are double-precision numbers, and what the program answers depends on
every bit of them: sums are not associative, and a percentage may fall on either side of a passing
score.  Lean's own floating-point type computes the right bits but says nothing about them, so this
module defines the numbers instead.  A number is not-a-number, an infinity, or a sign and a
magnitude; each operation computes the exact result in units and rounds it once, which is the
definition of the standard's operations and all that a proof about them needs.

Main definitions:

* `Binary64` — the numbers; there is one not-a-number;
* `Binary64.ofRatio` — the number nearest to a signed quotient of units;
* `Binary64.add`, `Binary64.mul`, `Binary64.div` — exact, then rounded;
* `Binary64.round` — to the nearest whole number, halves away from zero;
* `Binary64.roundHundredths` — to two decimals, as scores and percentages are;
* `Binary64.sum` — from left to right, starting at `-0.0`;
* `Binary64.rank`, `Binary64.lt`, `Binary64.le` — the order, in which not-a-number takes no part;
* `Binary64.toBits` — the interchange encoding.

Main results:

* `Binary64.le_trans`, `Binary64.le_of_lt` — the order behaves as an order where it is defined;
* `Binary64.sum_nil`, `Binary64.sum_concat` — a sum grows at its right end.
-/
import QuizAttempts.Binary64.Magnitude

set_option autoImplicit false

namespace QuizAttempts

-- A power of natural numbers is read as one, whatever else is in scope.
attribute [local instance (2000)] instPowNat

/-- A double-precision number. -/
inductive Binary64 where
  /-- The result of an operation that has none. -/
  | nan
  | infinite (negative : Bool)
  | finite (negative : Bool) (magnitude : Magnitude)
  deriving DecidableEq

namespace Binary64

/-! ### Rounding into the type -/

/-- The number nearest to a signed quotient of units; past the largest magnitude it is infinite. -/
def ofRatio (negative : Bool) (numerator denominator : Nat) : Binary64 :=
  match Magnitude.nearest? numerator denominator with
  | some m => finite negative m
  | none => infinite negative

theorem ofRatio_eq_finite {numerator denominator : Nat} {m : Magnitude} (negative : Bool)
    (h : Magnitude.nearest? numerator denominator = some m) :
    ofRatio negative numerator denominator = finite negative m := by
  unfold ofRatio
  simp only [h]

/-- The number nearest to the units of a magnitude has that magnitude. -/
theorem ofRatio_units_mul (negative : Bool) (m : Magnitude) {d : Nat} (hd : 0 < d) :
    ofRatio negative (m.units * d) d = finite negative m :=
  ofRatio_eq_finite negative (Magnitude.nearest?_units_mul m hd)

/-- The number nearest to an integer. -/
def ofInt (n : Int) : Binary64 :=
  ofRatio (decide (n < 0)) (n.natAbs * Magnitude.unitsPerOne) 1

/-- Positive zero. -/
def zero : Binary64 := finite false Magnitude.zero

/-- Negative zero. -/
def negZero : Binary64 := finite true Magnitude.zero

/-- A hundred. -/
def hundred : Binary64 := ofInt 100

/-- Neither infinite nor not-a-number. -/
def isFinite : Binary64 → Bool
  | finite _ _ => true
  | _ => false

@[simp] theorem isFinite_nan : nan.isFinite = false := rfl

@[simp] theorem isFinite_infinite (s : Bool) : (infinite s).isFinite = false := rfl

@[simp] theorem isFinite_finite (s : Bool) (m : Magnitude) : (finite s m).isFinite = true := rfl

/-! ### Arithmetic -/

/-- The sum of two finite numbers.  Opposite numbers cancel to positive zero; two zeros of one sign
keep it. -/
def addFinite (s : Bool) (m : Magnitude) (t : Bool) (n : Magnitude) : Binary64 :=
  if s = t then ofRatio s (m.units + n.units) 1
  else if n.units < m.units then ofRatio s (m.units - n.units) 1
  else if m.units < n.units then ofRatio t (n.units - m.units) 1
  else zero

/-- The sum. -/
def add : Binary64 → Binary64 → Binary64
  | nan, _ | _, nan => nan
  | infinite s, infinite t => if s = t then infinite s else nan
  | infinite s, finite _ _ | finite _ _, infinite s => infinite s
  | finite s m, finite t n => addFinite s m t n

/-- The product. -/
def mul : Binary64 → Binary64 → Binary64
  | nan, _ | _, nan => nan
  | infinite s, infinite t => infinite (s != t)
  | infinite s, finite t m | finite t m, infinite s =>
      if m.units = 0 then nan else infinite (s != t)
  | finite s m, finite t n => ofRatio (s != t) (m.units * n.units) Magnitude.unitsPerOne

/-- The quotient. -/
def div : Binary64 → Binary64 → Binary64
  | nan, _ | _, nan => nan
  | infinite _, infinite _ => nan
  | infinite s, finite t _ => infinite (s != t)
  | finite s _, infinite t => finite (s != t) Magnitude.zero
  | finite s m, finite t n =>
      if n.units = 0 then
        if m.units = 0 then nan else infinite (s != t)
      else ofRatio (s != t) (m.units * Magnitude.unitsPerOne) n.units

instance : Add Binary64 := ⟨add⟩

instance : Mul Binary64 := ⟨mul⟩

instance : Div Binary64 := ⟨div⟩

/-- The nearest whole number; a half goes away from zero, and a zero keeps its sign. -/
def round : Binary64 → Binary64
  | finite s m =>
      let whole := (2 * m.units + Magnitude.unitsPerOne) / (2 * Magnitude.unitsPerOne)
      ofRatio s (whole * Magnitude.unitsPerOne) 1
  | x => x

/-- **Two decimals**: a hundred times the number, rounded, and divided by a hundred again. -/
def roundHundredths (x : Binary64) : Binary64 := (x * hundred).round / hundred

/-- **The sum of a list**, taken from left to right.  It starts at `-0.0`, the neutral element of
addition, so an empty sum is negative zero. -/
def sum (xs : List Binary64) : Binary64 := xs.foldl add negZero

@[simp] theorem sum_nil : sum [] = negZero := rfl

@[simp] theorem sum_concat (xs : List Binary64) (x : Binary64) :
    sum (xs ++ [x]) = sum xs + x := by
  simp only [sum, List.foldl_append, List.foldl_cons, List.foldl_nil]
  rfl

/-! ### Order -/

/-- A place past that of every finite number. -/
def infiniteRank : Int := (Magnitude.unitsPerOne * 2 ^ (1024 : Nat) : Nat)

/-- The place of a number on the line, in units; the infinities stand past every finite number.
Not-a-number has no place. -/
def rank : Binary64 → Option Int
  | nan => none
  | infinite s => some (if s then -infiniteRank else infiniteRank)
  | finite s m => some (if s then -(m.units : Int) else m.units)

/-- `x` is less than `y`. -/
def lt (x y : Binary64) : Bool :=
  match x.rank, y.rank with
  | some a, some b => decide (a < b)
  | _, _ => false

/-- `x` is at most `y`; the two zeros are equal, and not-a-number is comparable to nothing. -/
def le (x y : Binary64) : Bool :=
  match x.rank, y.rank with
  | some a, some b => decide (a ≤ b)
  | _, _ => false

@[simp] theorem rank_zero : zero.rank = some 0 := rfl

@[simp] theorem rank_negZero : negZero.rank = some 0 := rfl

theorem le_iff {x y : Binary64} :
    x.le y = true ↔ ∃ a b, x.rank = some a ∧ y.rank = some b ∧ a ≤ b := by
  unfold le
  cases hx : x.rank with
  | none => simp
  | some a =>
      cases hy : y.rank with
      | none => simp
      | some b => simp

theorem lt_iff {x y : Binary64} :
    x.lt y = true ↔ ∃ a b, x.rank = some a ∧ y.rank = some b ∧ a < b := by
  unfold lt
  cases hx : x.rank with
  | none => simp
  | some a =>
      cases hy : y.rank with
      | none => simp
      | some b => simp

theorem le_of_lt {x y : Binary64} (h : x.lt y = true) : x.le y = true := by
  obtain ⟨a, b, ha, hb, hab⟩ := lt_iff.1 h
  exact le_iff.2 ⟨a, b, ha, hb, Int.le_of_lt hab⟩

theorem le_trans {x y z : Binary64} (hxy : x.le y = true) (hyz : y.le z = true) :
    x.le z = true := by
  obtain ⟨a, b, ha, hb, hab⟩ := le_iff.1 hxy
  obtain ⟨b', c, hb', hc, hbc⟩ := le_iff.1 hyz
  rw [hb] at hb'
  obtain rfl := Option.some.inj hb'
  exact le_iff.2 ⟨a, c, ha, hc, Int.le_trans hab hbc⟩

@[simp] theorem not_le_nan (x : Binary64) : x.le nan = false := by
  cases x <;> rfl

@[simp] theorem not_nan_le (x : Binary64) : nan.le x = false := rfl

/-! ### Interchange encoding -/

/-- The 64 bits of the interchange encoding: sign, 11 bits of exponent, 52 of fraction. -/
def toBits : Binary64 → Nat
  | nan => 2047 * 2 ^ (52 : Nat) + 2 ^ (51 : Nat)
  | infinite s => s.toNat * 2 ^ (63 : Nat) + 2047 * 2 ^ (52 : Nat)
  | finite s m =>
      let field := if m.significand < 2 ^ (52 : Nat) then 0 else m.exponent + 1
      s.toNat * 2 ^ (63 : Nat) + field * 2 ^ (52 : Nat) + m.significand % 2 ^ (52 : Nat)

end Binary64

end QuizAttempts
