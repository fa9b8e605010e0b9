/-
**Moments in time, to the nanosecond.**

A moment is a whole second since the beginning of 1970 and a number of nanoseconds.  A moment that
was read from a text may lie inside a leap second; it is kept at the second before, with a billion
nanoseconds or more, so that it is told apart from the second that follows.  Moments span the years
from -262143 to 262142, and moving past either end fails instead of wrapping around.

Whether an attempt is late is decided by `Timestamp.since`, an exact number of nanoseconds: the
comparison with a time limit is strict, so the very nanosecond matters.

Main definitions:

* `Timestamp` — a moment, with its range as part of the type;
* `Timestamp.ofParts?`, `Timestamp.ofMillis?` — moments from numbers;
* `Timestamp.advance?` — a moment moved by some nanoseconds, either way;
* `Timestamp.since` — the nanoseconds between two moments.

Main results:

* `Timestamp.since_self` — no time passes between a moment and itself;
* `Timestamp.since_eq_sub` — outside leap seconds a difference is the difference of the positions.
-/
import QuizAttempts.Timestamp.Calendar

set_option autoImplicit false

namespace QuizAttempts

/-- The first second of the first day. -/
def firstSecond : Int := -8334601228800

/-- The last second of the last day. -/
def lastSecond : Int := 8210266876799

/-- Nanoseconds per second. -/
def nanosPerSecond : Nat := 1000000000

/-- Seconds per day. -/
def secondsPerDay : Int := 86400

/-- A moment: seconds since 1970, and nanoseconds, a billion or more of them inside a leap second.
-/
structure Timestamp where
  seconds : Int
  nanos : Nat
  in_range : firstSecond ≤ seconds ∧ seconds ≤ lastSecond
  nanos_lt : nanos < 2 * nanosPerSecond
  deriving DecidableEq

namespace Timestamp

/-- The moment with these parts, when it is in range. -/
def ofParts? (seconds : Int) (nanos : Nat) : Option Timestamp :=
  if h : (firstSecond ≤ seconds ∧ seconds ≤ lastSecond) ∧ nanos < 2 * nanosPerSecond then
    some ⟨seconds, nanos, h.1, h.2⟩
  else none

/-- The moment that many nanoseconds after the beginning of 1970, outside leap seconds. -/
def ofNanos? (total : Int) : Option Timestamp :=
  ofParts? (total / nanosPerSecond) (total % nanosPerSecond).toNat

/-- The moment that many milliseconds after the beginning of 1970. -/
def ofMillis? (total : Int) : Option Timestamp := ofNanos? (total * 1000000)

/-- The place of a moment on a line that has no leap seconds. -/
def toNanos (t : Timestamp) : Int := t.seconds * nanosPerSecond + t.nanos

/-- The moment `nanos` nanoseconds later, or earlier when that is negative. -/
def advance? (t : Timestamp) (nanos : Int) : Option Timestamp := ofNanos? (t.toNanos + nanos)

/-- The moment lies inside a leap second. -/
def isLeap (t : Timestamp) : Bool := nanosPerSecond ≤ t.nanos

/-- The second of the day. -/
def secondOfDay (t : Timestamp) : Int := t.seconds % secondsPerDay

/-- The leap second, if any, that a difference of two times of day has to count. -/
def leapBetween (later earlier : Timestamp) : Int :=
  if earlier.secondOfDay < later.secondOfDay ∧ earlier.isLeap then 1
  else if later.secondOfDay < earlier.secondOfDay ∧ later.isLeap then -1
  else 0

/-- **The nanoseconds from `earlier` to `later`**, negative when they are the other way round. -/
def since (later earlier : Timestamp) : Int :=
  (later.seconds - earlier.seconds + leapBetween later earlier) * nanosPerSecond +
    (later.nanos - earlier.nanos)

/-- The whole seconds from `earlier` to `later`, none when they are the other way round. -/
def secondsSince (later earlier : Timestamp) : Int :=
  max ((later.since earlier).tdiv nanosPerSecond) 0

theorem since_eq_sub {later earlier : Timestamp} (hl : later.isLeap = false)
    (he : earlier.isLeap = false) : later.since earlier = later.toNanos - earlier.toNanos := by
  simp only [since, leapBetween, hl, he, toNanos]
  simp
  rw [Int.sub_mul]
  omega

@[simp] theorem since_self (t : Timestamp) : t.since t = 0 := by
  simp [since, leapBetween]

theorem secondsSince_nonneg (later earlier : Timestamp) : 0 ≤ later.secondsSince earlier :=
  Int.le_max_right _ _

end Timestamp

end QuizAttempts
