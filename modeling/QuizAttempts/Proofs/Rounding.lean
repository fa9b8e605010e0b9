/-
**Rounding keeps the order.**

Arithmetic is exact but for one rounding, and all that can be said of results without knowing every
bit comes from two properties of it: a greater quotient is never rounded to less, and what needs no
rounding is not touched.  Here they are shown for quotients of units.  A quotient is rounded to 53
bits, wherever these are, and whatever passes the largest magnitude is infinite; so the place of the
result on the line is the rounded quotient, cut off at the place of infinity.

The numbers that are not negative, the negative zero among them, are called amounts.  Adding them,
taking a hundred times one, rounding it and dividing it by a hundred are monotone, so rounding to
two decimals is as well.

Main definitions:

* `Magnitude.rounded`, `Magnitude.capped` — a quotient of units, rounded to 53 bits, and its place;
* `Binary64.HasRank` — an amount and its place on the line.

Main results:

* `nearestEven_mono`, `Magnitude.rounded_mono` — **a greater quotient is not rounded to less**;
* `Magnitude.rounded_units_mul` — the units of a magnitude are not touched;
* `Binary64.hasRank_ofRatio` — **the place of a rounded quotient**;
* `Binary64.HasRank.add`, `Binary64.HasRank.mul_hundred`, `Binary64.HasRank.round`,
  `Binary64.HasRank.div_hundred` — the places of results;
* `Binary64.HasRank.roundHundredths`, `Binary64.hundredths_mono` — **two decimals keep the order**;
* `Binary64.HasRank.div_self`, `Binary64.hundredths_hundred` — the whole of something is one, and a
  hundred has no decimals, exactly.
-/
import QuizAttempts.Binary64

set_option autoImplicit false

namespace QuizAttempts

-- A power of natural numbers is read as one, whatever else is in scope.
attribute [local instance (2000)] instPowNat

/-! ### Quotients -/

/-- Of two quotients the greater one has the greater whole part. -/
theorem div_le_div_of_cross {n d n' d' : Nat} (hd : 0 < d) (hd' : 0 < d') (h : n * d' ≤ n' * d) :
    n / d ≤ n' / d' := by
  rw [Nat.le_div_iff_mul_le hd']
  refine Nat.le_of_mul_le_mul_right ?_ hd
  calc n / d * d' * d = n / d * d * d' := Nat.mul_right_comm ..
    _ ≤ n * d' := Nat.mul_le_mul_right d' (Nat.div_mul_le_self n d)
    _ ≤ n' * d := h

/-- **A greater quotient is not rounded to less.** -/
theorem nearestEven_mono {n d n' d' : Nat} (hd : 0 < d) (hd' : 0 < d') (h : n * d' ≤ n' * d) :
    nearestEven n d ≤ nearestEven n' d' := by
  have hfloor : n / d ≤ n' / d' := div_le_div_of_cross hd hd' h
  by_cases hlt : n / d < n' / d'
  · exact Nat.le_trans (nearestEven_le n d) (Nat.le_trans hlt (le_nearestEven n' d'))
  · -- with the same whole part, what is left over decides
    have hsame : n / d = n' / d' := by omega
    have hleft : n % d * d' ≤ n' % d' * d := by
      have hn : n * d' = n / d * d * d' + n % d * d' := by
        rw [← Nat.add_mul, Nat.mul_comm (n / d), Nat.div_add_mod]
      have hn' : n' * d = n / d * d * d' + n' % d' * d := by
        rw [Nat.mul_right_comm, hsame, ← Nat.add_mul, Nat.mul_comm (n' / d'), Nat.div_add_mod]
      omega
    have hhalf : d ≤ 2 * (n % d) → d' ≤ 2 * (n' % d') := by
      intro hge
      refine Nat.le_of_mul_le_mul_right ?_ hd
      calc d' * d = d * d' := Nat.mul_comm ..
        _ ≤ 2 * (n % d) * d' := Nat.mul_le_mul_right d' hge
        _ = 2 * (n % d * d') := Nat.mul_assoc ..
        _ ≤ 2 * (n' % d' * d) := Nat.mul_le_mul_left 2 hleft
        _ = 2 * (n' % d') * d := (Nat.mul_assoc ..).symm
    have hmore : d < 2 * (n % d) → d' < 2 * (n' % d') := by
      intro hgt
      refine Nat.lt_of_mul_lt_mul_right (a := d) ?_
      calc d' * d = d * d' := Nat.mul_comm ..
        _ < 2 * (n % d) * d' := Nat.mul_lt_mul_of_pos_right hgt hd'
        _ = 2 * (n % d * d') := Nat.mul_assoc ..
        _ ≤ 2 * (n' % d' * d) := Nat.mul_le_mul_left 2 hleft
        _ = 2 * (n' % d') * d := (Nat.mul_assoc ..).symm
    by_cases hless : 2 * (n % d) < d
    · have hdown : nearestEven n d = n' / d' := by simp only [nearestEven, if_pos hless, hsame]
      rw [hdown]
      exact le_nearestEven n' d'
    · have hge := hhalf (Nat.le_of_not_lt hless)
      simp only [nearestEven, if_neg hless, if_neg (Nat.not_lt.2 hge), hsame]
      split
      · rename_i hup
        exact Nat.le_of_eq (if_pos (hmore hup)).symm
      · split <;> omega

namespace Magnitude

/-- How far a quotient is shifted for 53 bits to be left. -/
def shift (n d : Nat) : Nat := Nat.log2 (n / d) - 52

/-- **A quotient of units, rounded to 53 bits**, however large it is. -/
def rounded (n d : Nat) : Nat := nearestEven n (d * 2 ^ shift n d) * 2 ^ shift n d

theorem lt_two_pow_shift (n d : Nat) : n / d < 2 ^ (53 + shift n d) := by
  refine Nat.lt_of_lt_of_le Nat.lt_log2_self (Nat.pow_le_pow_right (by decide) ?_)
  unfold shift
  omega

/-- No more than 53 bits are left, or one after them when all are rounded up. -/
theorem nearestEven_shift_le (n d : Nat) : nearestEven n (d * 2 ^ shift n d) ≤ 2 ^ (53 : Nat) := by
  refine Nat.le_trans (nearestEven_le _ _) ?_
  rw [← Nat.div_div_eq_div_mul]
  refine (Nat.div_lt_iff_lt_mul (Nat.two_pow_pos _)).2 ?_
  rw [← Nat.pow_add]
  exact lt_two_pow_shift n d

theorem rounded_le (n d : Nat) : rounded n d ≤ 2 ^ (53 + shift n d) := by
  rw [Nat.pow_add]
  exact Nat.mul_le_mul_right _ (nearestEven_shift_le n d)

/-- A quotient that is shifted keeps its leading bit. -/
theorem le_rounded {n d : Nat} (h : shift n d ≠ 0) : 2 ^ (52 + shift n d) ≤ rounded n d := by
  rw [Nat.pow_add]
  exact Nat.mul_le_mul_right _ (two_pow_le_nearestEven h rfl)

theorem shift_mono {n d n' d' : Nat} (h : n / d ≤ n' / d') : shift n d ≤ shift n' d' := by
  have hlog : Nat.log2 (n / d) ≤ Nat.log2 (n' / d') := by
    by_cases hzero : n / d = 0
    · rw [hzero]
      exact Nat.zero_le _
    · have hpos : n' / d' ≠ 0 := fun hnone => hzero (Nat.eq_zero_of_le_zero (hnone ▸ h))
      exact (Nat.le_log2 hpos).2 (Nat.le_trans (Nat.log2_self_le hzero) h)
  unfold shift
  omega

/-- **A greater quotient is not rounded to less**, to however many bits it is. -/
theorem rounded_mono {n d n' d' : Nat} (hd : 0 < d) (hd' : 0 < d') (h : n * d' ≤ n' * d) :
    rounded n d ≤ rounded n' d' := by
  have hshift : shift n d ≤ shift n' d' := shift_mono (div_le_div_of_cross hd hd' h)
  by_cases hlt : shift n d < shift n' d'
  · -- a power of two lies between them
    calc rounded n d ≤ 2 ^ (53 + shift n d) := rounded_le n d
      _ ≤ 2 ^ (52 + shift n' d') := Nat.pow_le_pow_right (by decide) (by omega)
      _ ≤ rounded n' d' := le_rounded (by omega)
  · have hsame : shift n' d' = shift n d := by omega
    unfold rounded
    rw [hsame]
    refine Nat.mul_le_mul_right _ (nearestEven_mono ?_ ?_ ?_)
    · exact Nat.mul_pos hd (Nat.two_pow_pos _)
    · exact Nat.mul_pos hd' (Nat.two_pow_pos _)
    · rw [← Nat.mul_assoc, ← Nat.mul_assoc]
      exact Nat.mul_le_mul_right _ h

/-- What is rounded depends on the quotient alone. -/
theorem rounded_eq {n d n' d' : Nat} (hd : 0 < d) (hd' : 0 < d') (h : n * d' = n' * d) :
    rounded n d = rounded n' d' :=
  Nat.le_antisymm (rounded_mono hd hd' (Nat.le_of_eq h)) (rounded_mono hd' hd (Nat.le_of_eq h.symm))

/-- **The magnitude nearest to a quotient has the rounded units.** -/
theorem units_nearest? {n d : Nat} {m : Magnitude} (h : nearest? n d = some m) :
    m.units = rounded n d := by
  have hle := nearestEven_shift_le n d
  simp only [nearest?] at h
  split at h
  · split at h
    · rw [← Option.some.inj h]
      rfl
    · simp at h
  · rename_i hcarry
    have hge : 2 ^ (53 : Nat) ≤ nearestEven n (d * 2 ^ shift n d) := Nat.le_of_not_lt hcarry
    split at h
    · rw [← Option.some.inj h]
      show 2 ^ (52 : Nat) * 2 ^ (shift n d + 1) = nearestEven n (d * 2 ^ shift n d) * 2 ^ shift n d
      rw [Nat.le_antisymm hle hge, ← Nat.pow_add, ← Nat.pow_add]
      exact congrArg (2 ^ ·) (by omega)
    · simp at h

/-- The binary places below the units that no magnitude reaches. -/
def limitPlaces : Nat := unitPlaces + 1024

/-- The units that no magnitude reaches. -/
def limit : Nat := unitsPerOne * 2 ^ (1024 : Nat)

theorem limit_eq : limit = 2 ^ limitPlaces := by
  unfold limit unitsPerOne limitPlaces
  exact (Nat.pow_add 2 unitPlaces 1024).symm

theorem exists_limit_eq : ∃ k, limit = k * unitsPerOne := ⟨_, Nat.mul_comm unitsPerOne _⟩

theorem units_lt_limit (m : Magnitude) : m.units < limit := by
  have hplaces : 53 + m.exponent ≤ limitPlaces := Nat.add_le_add_left m.exponent_le 53
  calc m.units < 2 ^ (53 : Nat) * 2 ^ m.exponent :=
        Nat.mul_lt_mul_of_pos_right m.significand_lt (Nat.two_pow_pos _)
    _ = 2 ^ (53 + m.exponent) := (Nat.pow_add ..).symm
    _ ≤ 2 ^ limitPlaces := Nat.pow_le_pow_right (by decide) hplaces
    _ = limit := limit_eq.symm

/-- Where no magnitude is nearest, the rounded quotient is past all of them. -/
theorem limit_le_rounded {n d : Nat} (h : nearest? n d = none) : limit ≤ rounded n d := by
  simp only [nearest?] at h
  rw [limit_eq]
  split at h
  · split at h
    · simp at h
    · rename_i hfar
      have hplaces : limitPlaces ≤ 52 + shift n d :=
        Nat.add_le_add_left (show 2046 ≤ shift n d from Nat.lt_of_not_le hfar) 52
      have hshift : shift n d ≠ 0 :=
        Nat.ne_of_gt (Nat.lt_of_le_of_lt (Nat.zero_le _) (Nat.lt_of_not_le hfar))
      exact Nat.le_trans (Nat.pow_le_pow_right (by decide) hplaces) (le_rounded hshift)
  · rename_i hcarry
    split at h
    · simp at h
    · rename_i hfar
      have hplaces : limitPlaces ≤ 53 + shift n d :=
        Nat.add_le_add_left
          (show 2045 ≤ shift n d from Nat.le_of_lt_succ (Nat.lt_of_not_le hfar)) 53
      have hall : 2 ^ (53 : Nat) ≤ nearestEven n (d * 2 ^ shift n d) := Nat.le_of_not_lt hcarry
      calc 2 ^ limitPlaces ≤ 2 ^ (53 + shift n d) := Nat.pow_le_pow_right (by decide) hplaces
        _ = 2 ^ (53 : Nat) * 2 ^ shift n d := Nat.pow_add ..
        _ ≤ rounded n d := Nat.mul_le_mul_right _ hall

/-- **The units of a magnitude are not touched.** -/
theorem rounded_units_mul (m : Magnitude) {d : Nat} (hd : 0 < d) :
    rounded (m.units * d) d = m.units :=
  (units_nearest? (nearest?_units_mul m hd)).symm

theorem rounded_units (m : Magnitude) : rounded m.units 1 = m.units := by
  have hsame := rounded_units_mul m Nat.one_pos
  rwa [Nat.mul_one] at hsame

theorem rounded_zero {d : Nat} (hd : 0 < d) : rounded 0 d = 0 := by
  have hzero := rounded_units_mul zero hd
  rwa [units_zero, Nat.zero_mul] at hzero

theorem shift_limit : shift limit 1 = limitPlaces - 52 := by
  rw [shift, Nat.div_one, limit_eq, Nat.log2_two_pow]

/-- What is past all magnitudes stays there. -/
theorem limit_le_rounded_of_le {n : Nat} (h : limit ≤ n) : limit ≤ rounded n 1 := by
  have hshift : 52 + shift limit 1 = limitPlaces := by
    rw [shift_limit]
    rfl
  have htop : limit ≤ rounded limit 1 := by
    calc limit = 2 ^ limitPlaces := limit_eq
      _ = 2 ^ (52 + shift limit 1) := by rw [hshift]
      _ ≤ rounded limit 1 := le_rounded (by rw [shift_limit]; decide)
  exact Nat.le_trans htop (rounded_mono (by decide) (by decide) (Nat.mul_le_mul_right 1 h))

/-- **The place of a rounded quotient**: that of infinity where no magnitude reaches it. -/
def capped (n d : Nat) : Nat := min (rounded n d) limit

theorem capped_le_rounded (n d : Nat) : capped n d ≤ rounded n d := Nat.min_le_left ..

theorem capped_le_limit (n d : Nat) : capped n d ≤ limit := Nat.min_le_right ..

theorem capped_zero {d : Nat} (hd : 0 < d) : capped 0 d = 0 := by
  rw [capped, rounded_zero hd, Nat.zero_min]

theorem capped_of_limit_le {n : Nat} (h : limit ≤ n) : capped n 1 = limit :=
  Nat.min_eq_right (limit_le_rounded_of_le h)

theorem capped_mono {n d n' d' : Nat} (hd : 0 < d) (hd' : 0 < d') (h : n * d' ≤ n' * d) :
    capped n d ≤ capped n' d' :=
  Nat.le_min.2 ⟨Nat.le_trans (capped_le_rounded n d) (rounded_mono hd hd' h), capped_le_limit n d⟩

theorem capped_eq {n d n' d' : Nat} (hd : 0 < d) (hd' : 0 < d') (h : n * d' = n' * d) :
    capped n d = capped n' d' := by
  rw [capped, capped, rounded_eq hd hd' h]

/-- The largest magnitude. -/
def largest : Magnitude :=
  { significand := 2 ^ (53 : Nat) - 1
    exponent := 2045
    significand_lt := by decide
    exponent_le := Nat.le_refl _
    normal := fun _ => by decide }

theorem unitPlaces_le_largest : unitPlaces ≤ largest.exponent := by decide

theorem units_le_largest (m : Magnitude) : m.units ≤ largest.units := by
  have hbits : m.significand ≤ largest.significand := Nat.le_sub_one_of_lt m.significand_lt
  exact Nat.mul_le_mul hbits (Nat.pow_le_pow_right (by decide) m.exponent_le)

/-- A power of two that is shifted is the sum of the places. -/
theorem units_shifted (m : Magnitude) {k places : Nat} {a : Nat} (hbits : m.significand = a * 2 ^ k)
    (hplaces : k + m.exponent = places) : m.units = a * 2 ^ places := by
  rw [units, hbits, Nat.mul_assoc, ← Nat.pow_add, hplaces]

/-- The leading bit fits. -/
theorem leadingBit_lt : 2 ^ (52 : Nat) < 2 ^ (53 : Nat) := by decide

/-- The magnitude of one. -/
def one : Magnitude :=
  { significand := 2 ^ (52 : Nat)
    exponent := 1022
    significand_lt := leadingBit_lt
    exponent_le := by decide
    normal := fun _ => by decide }

theorem units_one : one.units = unitsPerOne := by
  rw [units_shifted one (Nat.one_mul _).symm (show 52 + 1022 = unitPlaces from rfl), Nat.one_mul,
    unitsPerOne]

/-- The magnitude of a hundred. -/
def hundred : Magnitude :=
  { significand := 100 * 2 ^ (46 : Nat)
    exponent := 1028
    significand_lt := by decide
    exponent_le := by decide
    normal := fun _ => by decide }

theorem units_hundred : hundred.units = 100 * unitsPerOne := by
  unfold unitsPerOne
  exact units_shifted hundred rfl (show 46 + 1028 = unitPlaces from rfl)

theorem hundred_lt_limit : 100 * unitsPerOne < limit := by
  rw [← units_hundred]
  exact hundred.units_lt_limit

theorem limit_pos : 0 < limit := Nat.lt_of_le_of_lt (Nat.zero_le _) hundred_lt_limit

theorem rounded_hundred : rounded (100 * unitsPerOne) 1 = 100 * unitsPerOne := by
  rw [← units_hundred]
  exact rounded_units hundred

end Magnitude

/-! ### Places -/

namespace Binary64

open Magnitude

/-- **An amount and its place on the line**: a number that is not negative, in units.  A negative
zero is an amount of none. -/
def HasRank (x : Binary64) (a : Nat) : Prop := x.rank = some (a : Int)

section Places

variable {x y : Binary64} {a b : Nat}

theorem HasRank.eq (h : x.HasRank a) (h' : x.HasRank b) : a = b :=
  Int.ofNat.inj (Option.some.inj (h.symm.trans h'))

theorem HasRank.le_iff (hx : x.HasRank a) (hy : y.HasRank b) : x.le y = true ↔ a ≤ b := by
  rw [le, hx, hy]
  simp

theorem HasRank.lt_iff (hx : x.HasRank a) (hy : y.HasRank b) : x.lt y = true ↔ a < b := by
  rw [lt, hx, hy]
  simp

theorem infiniteRank_eq : infiniteRank = (limit : Int) := rfl

theorem hasRank_zero : zero.HasRank 0 := rfl

theorem hasRank_infinite : (infinite false).HasRank limit := rfl

theorem hasRank_finite (m : Magnitude) : (finite false m).HasRank m.units := rfl

-- These are too large to be looked into.
attribute [local irreducible] limit largest Magnitude.hundred unitsPerOne

/-- Amounts are the numbers that are at least zero. -/
theorem zero_le_iff : zero.le x = true ↔ ∃ a, x.HasRank a := by
  rw [Binary64.le_iff]
  constructor
  · rintro ⟨z, r, hz, hr, hle⟩
    obtain rfl : 0 = z := Option.some.inj hz
    exact ⟨r.toNat, by rw [HasRank, hr, Int.toNat_of_nonneg hle]⟩
  · rintro ⟨a, ha⟩
    exact ⟨0, a, rfl, ha, Int.natCast_nonneg a⟩

/-- A finite number is an amount if it is not less than zero. -/
theorem zero_le_of_not_lt (hfinite : x.isFinite = true) (h : x.lt zero = false) :
    zero.le x = true := by
  obtain ⟨r, hr⟩ : ∃ r, x.rank = some r := by
    cases x with
    | nan => simp at hfinite
    | infinite s => simp at hfinite
    | finite s m => exact ⟨_, rfl⟩
  rw [Bool.eq_false_iff, Ne, Binary64.lt_iff] at h
  exact Binary64.le_iff.2 ⟨0, r, rank_zero, hr,
    Int.not_lt.1 fun hneg => h ⟨r, 0, hr, rank_zero, hneg⟩⟩

/-- **An amount is finite or infinite**, and has a sign only if it is none. -/
theorem HasRank.cases (h : x.HasRank a) :
    (∃ s m, x = finite s m ∧ m.units = a ∧ (s = true → a = 0)) ∨
      x = infinite false ∧ a = limit := by
  cases x with
  | nan => simp [HasRank, rank] at h
  | infinite s =>
      cases s with
      | false => exact Or.inr ⟨rfl, (hasRank_infinite.eq h).symm⟩
      | true =>
          have hplace : -infiniteRank = (a : Int) := Option.some.inj h
          rw [infiniteRank_eq] at hplace
          have hpos := limit_pos
          omega
  | finite s m =>
      refine Or.inl ⟨s, m, rfl, ?_⟩
      cases s with
      | false => exact ⟨(hasRank_finite m).eq h, by simp⟩
      | true =>
          have hplace : -(m.units : Int) = (a : Int) := Option.some.inj h
          omega

/-- **The finite amounts are those before infinity**, and none of them is after the largest. -/
theorem HasRank.isFinite_iff (h : x.HasRank a) : x.isFinite = true ↔ a < limit := by
  rcases h.cases with ⟨s, m, rfl, rfl, -⟩ | ⟨rfl, rfl⟩
  · exact iff_of_true rfl m.units_lt_limit
  · exact iff_of_false (by simp) (Nat.lt_irrefl _)

theorem HasRank.le_largest (h : x.HasRank a) (hlt : a < limit) : a ≤ largest.units := by
  rcases h.cases with ⟨s, m, -, rfl, -⟩ | ⟨-, rfl⟩
  · exact m.units_le_largest
  · exact absurd hlt (Nat.lt_irrefl _)

/-! ### The places of results -/

/-- **The place of a rounded quotient.** -/
theorem hasRank_ofRatio {s : Bool} {n d : Nat} (hd : 0 < d) (hs : s = true → n = 0) :
    (ofRatio s n d).HasRank (capped n d) := by
  cases s with
  | true =>
      obtain rfl := hs rfl
      have hzero := ofRatio_units_mul true Magnitude.zero hd
      rw [units_zero, Nat.zero_mul] at hzero
      rw [hzero, capped_zero hd]
      rfl
  | false =>
      unfold ofRatio
      cases hnearest : nearest? n d with
      | none =>
          rw [capped, Nat.min_eq_right (limit_le_rounded hnearest)]
          exact hasRank_infinite
      | some m =>
          rw [capped, ← units_nearest? hnearest, Nat.min_eq_left (Nat.le_of_lt m.units_lt_limit)]
          exact hasRank_finite m

theorem HasRank.add (hx : x.HasRank a) (hy : y.HasRank b) :
    (x + y).HasRank (capped (a + b) 1) := by
  have hone : 0 < 1 := by decide
  rcases hx.cases with ⟨s, m, rfl, rfl, hs⟩ | ⟨rfl, rfl⟩ <;>
    rcases hy.cases with ⟨t, n, rfl, rfl, ht⟩ | ⟨rfl, rfl⟩
  · show (addFinite s m t n).HasRank _
    unfold addFinite
    split
    · rename_i hst
      subst hst
      exact hasRank_ofRatio hone fun hsign => by rw [hs hsign, ht hsign]
    · -- one of the two is a negative zero, and the other one is the sum
      rename_i hne
      have hnone : m.units = 0 ∨ n.units = 0 := by
        cases s with
        | true => exact Or.inl (hs rfl)
        | false =>
            cases t with
            | true => exact Or.inr (ht rfl)
            | false => exact absurd rfl hne
      split
      · rename_i hlt
        have hn : n.units = 0 := by omega
        rw [hn, Nat.sub_zero, Nat.add_zero]
        exact hasRank_ofRatio hone hs
      · split
        · rename_i hlt
          have hm : m.units = 0 := by omega
          rw [hm, Nat.sub_zero, Nat.zero_add]
          exact hasRank_ofRatio hone ht
        · have hsum : m.units + n.units = 0 := by omega
          rw [hsum, capped_zero hone]
          rfl
  · rw [capped_of_limit_le (Nat.le_add_left ..)]
    exact hasRank_infinite
  · rw [capped_of_limit_le (Nat.le_add_right ..)]
    exact hasRank_infinite
  · rw [capped_of_limit_le (Nat.le_add_right ..)]
    exact hasRank_infinite

theorem hundred_eq : hundred = finite false Magnitude.hundred := by
  have hround := ofRatio_units_mul false Magnitude.hundred Nat.one_pos
  rw [units_hundred, Nat.mul_one] at hround
  exact hround

theorem hasRank_hundred : hundred.HasRank (100 * unitsPerOne) := by
  rw [hundred_eq, ← units_hundred]
  exact hasRank_finite _

/-- A quotient of amounts, when there is something to divide by. -/
theorem HasRank.div (hx : x.HasRank a) (hy : y.HasRank b) (ha : a < limit) (hb : b < limit)
    (hpos : 0 < b) : (x / y).HasRank (capped (a * unitsPerOne) b) := by
  rcases hx.cases with ⟨s, m, rfl, rfl, hs⟩ | ⟨-, rfl⟩
  · rcases hy.cases with ⟨t, n, rfl, rfl, ht⟩ | ⟨-, rfl⟩
    · have hsign : t = false := by
        cases t with
        | false => rfl
        | true => exact absurd (ht rfl) (Nat.ne_of_gt hpos)
      subst hsign
      show (Binary64.div (finite s m) (finite false n)).HasRank _
      rw [Binary64.div, if_neg (Nat.ne_of_gt hpos), Bool.bne_false]
      exact hasRank_ofRatio hpos fun hsign => by rw [hs hsign, Nat.zero_mul]
    · exact absurd hb (Nat.lt_irrefl _)
  · exact absurd ha (Nat.lt_irrefl _)

/-- A hundred times an amount. -/
theorem HasRank.mul_hundred (hx : x.HasRank a) :
    (x * hundred).HasRank (capped (a * 100) 1) := by
  have hpos : 100 * unitsPerOne ≠ 0 := Nat.ne_of_gt (Nat.mul_pos (by decide) unitsPerOne_pos)
  rw [hundred_eq]
  rcases hx.cases with ⟨s, m, rfl, rfl, hs⟩ | ⟨rfl, rfl⟩
  · show (mul (finite s m) (finite false Magnitude.hundred)).HasRank _
    have hscaled : capped (m.units * 100) 1 = capped (m.units * (100 * unitsPerOne)) unitsPerOne :=
      capped_eq (by decide) unitsPerOne_pos (by rw [Nat.mul_one, Nat.mul_assoc])
    rw [mul, Bool.bne_false, units_hundred, hscaled]
    exact hasRank_ofRatio unitsPerOne_pos fun hsign => by rw [hs hsign, Nat.zero_mul]
  · show (mul (infinite false) (finite false Magnitude.hundred)).HasRank _
    have hpast : limit ≤ limit * 100 := Nat.le_mul_of_pos_right _ (by decide)
    rw [mul, units_hundred, if_neg hpos, capped_of_limit_le hpast]
    exact hasRank_infinite

/-- The nearest whole number of ones, as a number of them. -/
def whole (a : Nat) : Nat := (2 * a + unitsPerOne) / (2 * unitsPerOne)

theorem whole_mono (h : a ≤ b) : whole a ≤ whole b := Nat.div_le_div_right (by omega)

/-- A whole number of ones is that number. -/
theorem whole_mul (k : Nat) : whole (k * unitsPerOne) = k := by
  have hpos := unitsPerOne_pos
  have hdouble : k * (2 * unitsPerOne) = 2 * (k * unitsPerOne) := Nat.mul_left_comm ..
  refine Nat.div_eq_of_lt_le ?_ ?_
  · rw [hdouble]
    exact Nat.le_add_right ..
  · rw [Nat.add_mul, hdouble]
    omega

theorem whole_limit : whole limit * unitsPerOne = limit := by
  obtain ⟨k, hk⟩ := exists_limit_eq
  rw [hk, whole_mul]

/-- A magnitude whose last bit is not below one is whole. -/
theorem whole_units (m : Magnitude) (h : unitPlaces ≤ m.exponent) :
    whole m.units * unitsPerOne = m.units := by
  have hunits : m.units = m.significand * 2 ^ (m.exponent - unitPlaces) * unitsPerOne := by
    unfold units unitsPerOne
    rw [Nat.mul_assoc, ← Nat.pow_add, Nat.sub_add_cancel h]
  rw [hunits, whole_mul]

/-- An amount rounded to a whole number. -/
theorem HasRank.round (hx : x.HasRank a) :
    x.round.HasRank (capped (whole a * unitsPerOne) 1) := by
  rcases hx.cases with ⟨s, m, rfl, rfl, hs⟩ | ⟨rfl, rfl⟩
  · refine hasRank_ofRatio (by decide) fun hsign => ?_
    have hless : 2 * 0 + unitsPerOne < 2 * unitsPerOne := by
      have := unitsPerOne_pos
      omega
    rw [hs hsign, Nat.div_eq_of_lt hless, Nat.zero_mul]
  · rw [whole_limit, capped_of_limit_le (Nat.le_refl _)]
    exact hasRank_infinite

/-- A hundredth of an amount. -/
theorem HasRank.div_hundred (hx : x.HasRank a) (ha : a < limit) :
    (x / hundred).HasRank (capped a 100) := by
  have hpos : 0 < 100 * unitsPerOne := Nat.mul_pos (by decide) unitsPerOne_pos
  have hscaled : capped a 100 = capped (a * unitsPerOne) (100 * unitsPerOne) :=
    capped_eq (by decide) hpos (by rw [Nat.mul_comm 100, Nat.mul_assoc])
  rw [hscaled]
  exact hx.div hasRank_hundred ha hundred_lt_limit hpos

/-! ### Two decimals -/

/-- The place of the whole number nearest to a hundred times an amount. -/
def hundredfold (a : Nat) : Nat := capped (whole (capped (a * 100) 1) * unitsPerOne) 1

theorem hundredfold_mono (h : a ≤ b) : hundredfold a ≤ hundredfold b := by
  have hone : 0 < 1 := by decide
  have hfirst : capped (a * 100) 1 ≤ capped (b * 100) 1 :=
    capped_mono hone hone (Nat.mul_le_mul_right 1 (Nat.mul_le_mul_right 100 h))
  exact capped_mono hone hone
    (Nat.mul_le_mul_right 1 (Nat.mul_le_mul_right unitsPerOne (whole_mono hfirst)))

/-- The place of an amount that is rounded to two decimals; the infinity stays where it is. -/
def hundredths (a : Nat) : Nat :=
  if hundredfold a < limit then capped (hundredfold a) 100 else limit

/-- An amount that is not finite is infinite. -/
theorem HasRank.eq_infinite (h : x.HasRank a) (ha : ¬ a < limit) : x = infinite false := by
  rcases h.cases with ⟨s, m, -, rfl, -⟩ | ⟨hinfinite, -⟩
  · exact absurd m.units_lt_limit ha
  · exact hinfinite

theorem infinite_div_hundred : infinite false / hundred = infinite false := by
  rw [hundred_eq]
  rfl

/-- **The place of an amount with two decimals.** -/
theorem HasRank.roundHundredths (hx : x.HasRank a) : x.roundHundredths.HasRank (hundredths a) := by
  have hwhole : (x * hundred).round.HasRank (hundredfold a) := hx.mul_hundred.round
  unfold Binary64.roundHundredths hundredths
  split
  · rename_i hlt
    exact hwhole.div_hundred hlt
  · rename_i hpast
    rw [hwhole.eq_infinite hpast, infinite_div_hundred]
    exact hasRank_infinite

/-- **Two decimals keep the order.** -/
theorem hundredths_mono (h : a ≤ b) : hundredths a ≤ hundredths b := by
  have hfold := hundredfold_mono h
  unfold hundredths
  split
  · split
    · exact capped_mono (by decide) (by decide) (Nat.mul_le_mul_right 100 hfold)
    · exact capped_le_limit ..
  · rename_i hpast
    have hpast' : ¬ hundredfold b < limit := fun hlt => hpast (Nat.lt_of_le_of_lt hfold hlt)
    exact Nat.le_of_eq (if_neg hpast').symm

/-- A hundred has no decimals. -/
theorem hundredths_hundred : hundredths (100 * unitsPerOne) = 100 * unitsPerOne := by decide +kernel

/-- A whole number near a finite one does not pass the largest one, which is whole. -/
theorem hundredfold_le_largest (h : capped (a * 100) 1 ≤ largest.units) :
    hundredfold a ≤ largest.units := by
  have hone : 0 < 1 := by decide
  calc hundredfold a ≤ rounded (whole (capped (a * 100) 1) * unitsPerOne) 1 := capped_le_rounded ..
    _ ≤ rounded (whole largest.units * unitsPerOne) 1 :=
        rounded_mono hone hone
          (Nat.mul_le_mul_right 1 (Nat.mul_le_mul_right unitsPerOne (whole_mono h)))
    _ = largest.units := by rw [whole_units largest unitPlaces_le_largest, rounded_units]

/-- **Two decimals are finite if a hundred times the amount is.** -/
theorem HasRank.isFinite_roundHundredths (hx : x.HasRank a) :
    x.roundHundredths.isFinite = (x * hundred).isFinite := by
  have hfold := hx.mul_hundred
  cases hfinite : (x * hundred).isFinite with
  | false =>
      have hpast : ¬ capped (a * 100) 1 < limit := by
        rw [← hfold.isFinite_iff, hfinite]
        exact Bool.false_ne_true
      rw [Binary64.roundHundredths, hfold.eq_infinite hpast]
      show (infinite false / hundred).isFinite = false
      rw [infinite_div_hundred]
      rfl
  | true =>
      have hwhole : hundredfold a ≤ largest.units :=
        hundredfold_le_largest (hfold.le_largest (hfold.isFinite_iff.1 hfinite))
      have hlt := Nat.lt_of_le_of_lt hwhole largest.units_lt_limit
      rw [Binary64.roundHundredths, (hfold.round.div_hundred hlt).isFinite_iff]
      refine Nat.lt_of_le_of_lt ?_ largest.units_lt_limit
      calc capped (hundredfold a) 100 ≤ rounded (hundredfold a) 100 := capped_le_rounded ..
        _ ≤ rounded largest.units 1 := rounded_mono (by decide) (by decide) (by omega)
        _ = largest.units := rounded_units largest

/-! ### The whole of something -/

/-- **What is divided by itself is one, exactly.** -/
theorem HasRank.div_self (hx : x.HasRank a) (hpos : 0 < a) (ha : a < limit) :
    x / x = finite false Magnitude.one := by
  rcases hx.cases with ⟨s, m, rfl, rfl, hs⟩ | ⟨-, rfl⟩
  · show Binary64.div (finite s m) (finite s m) = _
    rw [Binary64.div, if_neg (Nat.ne_of_gt hpos), bne_self_eq_false, ← units_one, Nat.mul_comm]
    exact ofRatio_units_mul false Magnitude.one hpos
  · exact absurd ha (Nat.lt_irrefl _)

/-- A part of something is one at most. -/
theorem HasRank.div_le (hx : x.HasRank a) (hy : y.HasRank b) (hpos : 0 < b) (hb : b < limit)
    (h : a ≤ b) : ∃ c, (x / y).HasRank c ∧ c ≤ unitsPerOne := by
  refine ⟨_, hx.div hy (Nat.lt_of_le_of_lt h hb) hb hpos, Nat.le_trans (capped_le_rounded ..) ?_⟩
  have hself : rounded (b * unitsPerOne) b = unitsPerOne := by
    rw [← units_one, Nat.mul_comm]
    exact rounded_units_mul Magnitude.one hpos
  calc rounded (a * unitsPerOne) b ≤ rounded (b * unitsPerOne) b :=
        rounded_mono hpos hpos (Nat.mul_le_mul_right b (Nat.mul_le_mul_right unitsPerOne h))
    _ = unitsPerOne := hself

end Places

end Binary64

end QuizAttempts
