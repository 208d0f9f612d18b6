import Mathlib.Algebra.Order.Field.Basic
import Mathlib.Algebra.Order.Field.Power
import Mathlib.Algebra.Order.Field.Rat
import Mathlib.Tactic.FieldSimp
import Mathlib.Tactic.Linarith
import Mathlib.Tactic.Ring
import Folio.Number.Binary

/-!
# Nearest magnitudes

A greater magnitude stands for a greater number (`size_strictMono`), and infinity for the power of
two behind the greatest finite one. The magnitude of a quotient is nearest to it among all up to
infinity, and even if another is as near (`isNearest_nearest`); there is no other such magnitude
(`IsNearest.eq`).

A quotient is rounded in a unit that leaves it a significand of full length. The magnitudes in this
unit and in greater ones are whole numbers of it, so the nearest whole number is nearer than any of
them. Those in lesser units lie below the significands of full length, and so do not count.
-/

namespace Folio.Number

-- A power of a number is the built-in one, whatever other powers are in scope.
attribute [local instance (high)] instPowNat

/-! ## Nearest integers -/

/-- A rounded quotient is at most half off, and even where it is half off. -/
theorem divideToNearest_half (numerator : Nat) {denominator : Nat} (positive : 0 < denominator) :
    |(numerator / denominator : ℚ) - divideToNearest numerator denominator| ≤ 1 / 2 ∧
      (|(numerator / denominator : ℚ) - divideToNearest numerator denominator| = 1 / 2 →
        divideToNearest numerator denominator % 2 = 0) := by
  have positive' : (0 : ℚ) < denominator := Nat.cast_pos.2 positive
  have parts := Nat.div_add_mod numerator denominator
  have small := Nat.mod_lt numerator positive
  unfold divideToNearest
  dsimp only
  generalize numerator / denominator = quotient at *
  generalize numerator % denominator = rest at *
  have split : (numerator / denominator : ℚ) = quotient + (rest / denominator : ℚ) := by
    rw [← parts]
    push_cast
    field_simp
  have rest0 : (0 : ℚ) ≤ rest / denominator := div_nonneg rest.cast_nonneg positive'.le
  rw [split]
  split
  · rename_i low
    have half : (rest / denominator : ℚ) < 1 / 2 := by
      rw [div_lt_div_iff₀ positive' two_pos]
      exact_mod_cast (by omega : rest * 2 < 1 * denominator)
    rw [add_sub_cancel_left, abs_of_nonneg rest0]
    exact ⟨half.le, fun tie => absurd tie half.ne⟩
  · split
    · rename_i high
      have half : (1 / 2 : ℚ) < rest / denominator := by
        rw [div_lt_div_iff₀ two_pos positive']
        exact_mod_cast (by omega : 1 * denominator < rest * 2)
      have one : (rest / denominator : ℚ) < 1 := by
        rw [div_lt_one positive']
        exact_mod_cast small
      have distance : |(quotient + rest / denominator - (quotient + 1 : Nat) : ℚ)| =
          1 - rest / denominator := by
        rw [abs_of_nonpos] <;> push_cast <;> linarith
      rw [distance]
      exact ⟨by linarith, fun tie => by linarith⟩
    · have half : (rest / denominator : ℚ) = 1 / 2 := by
        rw [div_eq_div_iff positive'.ne' two_ne_zero]
        exact_mod_cast (by omega : rest * 2 = 1 * denominator)
      rw [half]
      refine ⟨?_, fun _ => by omega⟩
      rcases Nat.mod_two_eq_zero_or_one quotient with even | odd
      · rw [even, Nat.add_zero, add_sub_cancel_left]
        norm_num
      · rw [odd]
        push_cast
        norm_num

/-- A rounded quotient is a nearest integer, and even if another is as near. -/
theorem divideToNearest_closest (numerator : Nat) {denominator : Nat} (positive : 0 < denominator)
    (other : Nat) :
    |(numerator / denominator : ℚ) - divideToNearest numerator denominator| ≤
        |(numerator / denominator : ℚ) - other| ∧
      (other ≠ divideToNearest numerator denominator →
        |(numerator / denominator : ℚ) - other| =
          |(numerator / denominator : ℚ) - divideToNearest numerator denominator| →
        divideToNearest numerator denominator % 2 = 0) := by
  obtain ⟨half, even⟩ := divideToNearest_half numerator positive
  generalize divideToNearest numerator denominator = rounded at *
  generalize (numerator / denominator : ℚ) = x at *
  by_cases same : other = rounded
  · rw [same]
    exact ⟨le_rfl, fun different => absurd rfl different⟩
  · have apart : (1 : ℚ) ≤ |(rounded - other : ℚ)| := by
      have whole : (1 : ℤ) ≤ |(rounded - other : ℤ)| := Int.one_le_abs (by omega)
      exact_mod_cast whole
    have way := abs_sub_abs_le_abs_sub (rounded - other : ℚ) (rounded - x)
    have ahead : (rounded - other : ℚ) - (rounded - x) = x - other := by ring
    rw [ahead, abs_sub_comm (rounded : ℚ) x] at way
    exact ⟨by linarith, fun _ tie => even (by linarith)⟩

/-! ## Units -/

/-- The number that a dyadic number is. -/
def Dyadic.toRat (x : Dyadic) : ℚ :=
  x.significand * 2 ^ x.unit

/-- The number that a decimal is. -/
def Decimal.toRat (x : Decimal) : ℚ :=
  x.digits * 10 ^ x.exponent

theorem natCast_pow (base n : Nat) : ((base ^ n : Nat) : ℚ) = base ^ (n : ℤ) := by
  rw [zpow_natCast]
  exact Nat.cast_pow base n

/-- A quotient measured in units of a power of two. -/
theorem inUnits_spec (numerator : Nat) {denominator : Nat} (positive : 0 < denominator)
    (unit : Int) :
    0 < (inUnits numerator denominator unit).2 ∧
      ((inUnits numerator denominator unit).1 / (inUnits numerator denominator unit).2 : ℚ) =
        numerator / denominator / 2 ^ unit := by
  unfold inUnits
  split
  · rename_i up
    refine ⟨Nat.mul_pos positive (Nat.two_pow_pos _), ?_⟩
    rw [Nat.cast_mul, natCast_pow, Int.toNat_of_nonneg up, Nat.cast_ofNat, div_div]
  · rename_i down
    refine ⟨positive, ?_⟩
    rw [Nat.cast_mul, natCast_pow, Int.toNat_of_nonneg (by omega), Nat.cast_ofNat, zpow_neg]
    ring

/-- A positive natural number lies between two powers of two. -/
theorem zpow_log2_le {n : Nat} (nonzero : n ≠ 0) :
    (2 : ℚ) ^ (n.log2 : ℤ) ≤ n ∧ (n : ℚ) < 2 ^ (n.log2 + 1 : ℤ) := by
  have power (k : Nat) : (2 : ℚ) ^ (k : ℤ) = (2 ^ k : Nat) := (natCast_pow 2 k).symm
  constructor
  · rw [power]
    exact_mod_cast Nat.log2_self_le nonzero
  · rw [← Nat.cast_succ, power]
    exact_mod_cast (Nat.lt_log2_self : n < 2 ^ (n.log2 + 1))

/-- A positive quotient lies between the power of two that it reaches and the next. -/
theorem floorLog2_spec {numerator denominator : Nat} (nonzero : numerator ≠ 0)
    (positive : 0 < denominator) :
    (2 : ℚ) ^ floorLog2 numerator denominator ≤ numerator / denominator ∧
      (numerator / denominator : ℚ) < 2 ^ (floorLog2 numerator denominator + 1) := by
  have positive' : (0 : ℚ) < denominator := Nat.cast_pos.2 positive
  obtain ⟨aboveN, belowN⟩ := zpow_log2_le nonzero
  obtain ⟨aboveD, belowD⟩ := zpow_log2_le positive.ne'
  obtain ⟨unitPositive, scaled⟩ :=
    inUnits_spec numerator positive ((numerator.log2 : Int) - denominator.log2)
  unfold floorLog2
  dsimp only
  generalize exact : (numerator.log2 : Int) - denominator.log2 = guess at *
  have unitPositive' : (0 : ℚ) < (inUnits numerator denominator guess).2 :=
    Nat.cast_pos.2 unitPositive
  have power : (0 : ℚ) < 2 ^ guess := zpow_pos two_pos guess
  split
  · rename_i reached
    have whole : (1 : ℚ) ≤ numerator / denominator / 2 ^ guess := by
      rw [← scaled, one_le_div₀ unitPositive']
      exact_mod_cast reached
    refine ⟨(one_le_div₀ power).1 whole, ?_⟩
    have exponents : (numerator.log2 + 1 : ℤ) = (guess + 1) + denominator.log2 := by omega
    rw [div_lt_iff₀ positive']
    rw [exponents, zpow_add₀ two_ne_zero] at belowN
    exact lt_of_lt_of_le belowN (mul_le_mul_of_nonneg_left aboveD (zpow_pos two_pos _).le)
  · rename_i short
    have part : (numerator / denominator / 2 ^ guess : ℚ) < 1 := by
      rw [← scaled, div_lt_one unitPositive']
      exact_mod_cast Nat.lt_of_not_le short
    rw [sub_add_cancel]
    refine ⟨?_, (div_lt_one power).1 part⟩
    have exponents : (numerator.log2 : ℤ) = (guess - 1) + (denominator.log2 + 1) := by omega
    rw [le_div_iff₀ positive']
    rw [exponents, zpow_add₀ two_ne_zero] at aboveN
    exact le_trans (mul_le_mul_of_nonneg_left belowD.le (zpow_pos two_pos _).le) aboveN

/-! ## Magnitudes -/

namespace Format

variable (f : Format)

/-- The number that a magnitude stands for. Infinity counts as the power of two behind the greatest
finite number. -/
def size (magnitude : Nat) : ℚ :=
  (f.value magnitude).toRat

/-- A significand stands behind a number of steps from the least unit upwards, of which there are
none unless it has its full length. -/
theorem value_eq {steps significand : Nat} (small : significand < 2 * 2 ^ f.fractionBits)
    (normal : steps = 0 ∨ 2 ^ f.fractionBits ≤ significand) :
    f.value (steps * 2 ^ f.fractionBits + significand) = ⟨significand, f.leastUnit + steps⟩ := by
  unfold value
  dsimp only
  have positive := Nat.two_pow_pos f.fractionBits
  generalize 2 ^ f.fractionBits = one at *
  rcases Nat.lt_or_ge significand one with low | high
  · obtain rfl : steps = 0 := normal.resolve_right (Nat.not_le.2 low)
    rw [Nat.zero_mul, Nat.zero_add, Nat.div_eq_of_lt low, Nat.mod_eq_of_lt low, if_pos rfl,
      Nat.cast_zero, add_zero]
  · have parts : steps * one + significand = (significand - one) + one * (steps + 1) := by
      rw [Nat.mul_succ, Nat.mul_comm]
      omega
    have fits : significand - one < one := by omega
    rw [parts, Nat.add_mul_div_left _ _ positive, Nat.add_mul_mod_self_left,
      Nat.div_eq_of_lt fits, Nat.mod_eq_of_lt fits, Nat.zero_add, if_neg (Nat.succ_ne_zero _),
      Nat.sub_add_cancel high]
    push_cast
    rw [← add_assoc, add_sub_cancel_right]

/-- A significand may also carry into the next step. -/
theorem size_eq {steps significand : Nat} (small : significand ≤ 2 * 2 ^ f.fractionBits)
    (normal : steps = 0 ∨ 2 ^ f.fractionBits ≤ significand) :
    f.size (steps * 2 ^ f.fractionBits + significand) =
      significand * 2 ^ (f.leastUnit + steps) := by
  rcases Nat.lt_or_ge significand (2 * 2 ^ f.fractionBits) with below | carry
  · rw [size, f.value_eq below normal, Dyadic.toRat]
  · obtain rfl : significand = 2 * 2 ^ f.fractionBits := Nat.le_antisymm small carry
    have positive := Nat.two_pow_pos f.fractionBits
    have parts : steps * 2 ^ f.fractionBits + 2 * 2 ^ f.fractionBits =
        (steps + 1) * 2 ^ f.fractionBits + 2 ^ f.fractionBits := by ring
    rw [parts, size, f.value_eq (by omega) (.inr le_rfl), Dyadic.toRat, Nat.cast_succ, ← add_assoc,
      zpow_add_one₀ two_ne_zero, Nat.cast_mul, Nat.cast_ofNat]
    ring

/-- Every magnitude is made so. -/
theorem exists_significand (magnitude : Nat) :
    ∃ steps significand, magnitude = steps * 2 ^ f.fractionBits + significand ∧
      significand < 2 * 2 ^ f.fractionBits ∧ (steps = 0 ∨ 2 ^ f.fractionBits ≤ significand) := by
  have positive := Nat.two_pow_pos f.fractionBits
  generalize 2 ^ f.fractionBits = one at *
  have parts := Nat.div_add_mod magnitude one
  have rest := Nat.mod_lt magnitude positive
  cases field : magnitude / one with
  | zero =>
    rw [field] at parts
    exact ⟨0, magnitude, by omega, by omega, .inl rfl⟩
  | succ steps =>
    rw [field, Nat.mul_succ, Nat.mul_comm] at parts
    exact ⟨steps, one + magnitude % one, by omega, by omega, .inr (by omega)⟩

/-- Greater magnitudes stand for greater numbers. -/
theorem size_strictMono : StrictMono f.size := by
  refine strictMono_nat_of_lt_succ fun magnitude => ?_
  obtain ⟨steps, significand, rfl, small, normal⟩ := f.exists_significand magnitude
  rw [f.size_eq small.le normal, add_assoc, f.size_eq (by omega) (by omega)]
  refine mul_lt_mul_of_pos_right ?_ (zpow_pos two_pos _)
  exact_mod_cast Nat.lt_succ_self significand

/-- In any unit a magnitude is a whole number or less than a significand of full length; it is less
only if the unit is not the least. -/
theorem size_whole_or_lt {unit : Int} (normal : f.leastUnit ≤ unit) (magnitude : Nat) :
    (∃ whole : Nat, f.size magnitude = whole * 2 ^ unit) ∨
      f.leastUnit < unit ∧ f.size magnitude < (2 ^ f.fractionBits : Nat) * 2 ^ unit := by
  obtain ⟨steps, significand, rfl, small, full⟩ := f.exists_significand magnitude
  rw [f.size_eq small.le full]
  rcases lt_or_ge (f.leastUnit + steps) unit with finer | coarser
  · refine .inr ⟨by omega, ?_⟩
    have power : (2 : ℚ) ^ (f.leastUnit + steps + 1) ≤ 2 ^ unit :=
      zpow_le_zpow_right₀ one_le_two finer
    have shorter : (significand : ℚ) < 2 * (2 ^ f.fractionBits : Nat) := by exact_mod_cast small
    calc (significand : ℚ) * 2 ^ (f.leastUnit + steps)
        < 2 * (2 ^ f.fractionBits : Nat) * 2 ^ (f.leastUnit + steps) :=
          mul_lt_mul_of_pos_right shorter (zpow_pos two_pos _)
      _ = (2 ^ f.fractionBits : Nat) * 2 ^ (f.leastUnit + steps + 1) := by
          rw [zpow_add_one₀ two_ne_zero]
          ring
      _ ≤ (2 ^ f.fractionBits : Nat) * 2 ^ unit :=
          mul_le_mul_of_nonneg_left power (Nat.cast_nonneg _)
  · refine .inl ⟨significand * 2 ^ (f.leastUnit + steps - unit).toNat, ?_⟩
    have exponents : f.leastUnit + steps = ((f.leastUnit + steps - unit).toNat : ℤ) + unit := by
      omega
    rw [Nat.cast_mul, natCast_pow, Nat.cast_ofNat, mul_assoc, ← zpow_add₀ two_ne_zero, ← exponents]

/-! ## Nearest magnitudes -/

/-- Whether a magnitude is nearest to a number among all up to infinity, and even if another is as
near. -/
structure IsNearest (x : ℚ) (magnitude : Nat) : Prop where
  inRange : magnitude ≤ f.infinity
  closest : ∀ other ≤ f.infinity, |x - f.size magnitude| ≤ |x - f.size other|
  even : ∀ other ≤ f.infinity, other ≠ magnitude →
    |x - f.size other| = |x - f.size magnitude| → magnitude % 2 = 0

variable {f} {x : ℚ}

/-- No more than one magnitude is nearest. -/
theorem IsNearest.eq {magnitude other : Nat} (nearest : f.IsNearest x magnitude)
    (nearestOther : f.IsNearest x other) : magnitude = other := by
  by_contra different
  wlog less : magnitude < other generalizing magnitude other
  · exact this nearestOther nearest (Ne.symm different) (by omega)
  have tie : |x - f.size other| = |x - f.size magnitude| :=
    le_antisymm (nearestOther.closest magnitude nearest.inRange)
      (nearest.closest other nearestOther.inRange)
  have even := nearest.even other nearestOther.inRange (Ne.symm different) tie
  have even' := nearestOther.even magnitude nearest.inRange different tie.symm
  -- Between two even magnitudes that are as near stands another, and that is nearer.
  have between : magnitude + 1 < other := by omega
  have low := f.size_strictMono (Nat.lt_succ_self magnitude)
  have high := f.size_strictMono between
  have nearer := nearest.closest (magnitude + 1) (by have := nearestOther.inRange; omega)
  have middle : x - f.size magnitude = f.size other - x := by
    rcases abs_eq_abs.1 tie with same | opposite
    · linarith
    · linarith
  rw [Nat.succ_eq_add_one] at low
  rw [abs_of_pos (by linarith), le_abs] at nearer
  rcases nearer with nearer | nearer <;> linarith

/-- A magnitude is nearest to what lies between the middles of the ways to its neighbours, and to
such a middle if it is even. -/
theorem isNearest_of_between {magnitude : Nat} (inRange : magnitude ≤ f.infinity)
    (below : ∀ other, other + 1 = magnitude → f.size other + f.size magnitude ≤ 2 * x)
    (above : 2 * x ≤ f.size magnitude + f.size (magnitude + 1))
    (inside : magnitude % 2 ≠ 0 → (∀ other, other + 1 = magnitude →
      f.size other + f.size magnitude ≠ 2 * x) ∧ 2 * x ≠ f.size magnitude + f.size (magnitude + 1)) :
    f.IsNearest x magnitude := by
  have apart : ∀ other, other ≠ magnitude → |x - f.size magnitude| ≤ |x - f.size other| ∧
      (|x - f.size other| = |x - f.size magnitude| → magnitude % 2 = 0) := by
    intro other different
    rcases Nat.lt_or_gt_of_ne different with less | greater
    · obtain ⟨before, rfl⟩ := Nat.exists_eq_succ_of_ne_zero (Nat.ne_zero_of_lt less)
      have next := f.size_strictMono (Nat.lt_succ_self before)
      have further := f.size_strictMono.monotone (Nat.le_of_lt_succ less)
      have half := below before rfl
      rw [Nat.succ_eq_add_one] at next half inside ⊢
      rw [abs_of_pos (by linarith : 0 < x - f.size other), abs_le]
      refine ⟨⟨by linarith, by linarith⟩, fun tie => ?_⟩
      by_contra odd
      refine (inside odd).1 before rfl (le_antisymm half ?_)
      rcases abs_cases (x - f.size (before + 1)) with ⟨same, -⟩ | ⟨same, -⟩ <;> linarith
    · have next := f.size_strictMono (Nat.lt_succ_self magnitude)
      have further := f.size_strictMono.monotone (Nat.succ_le_of_lt greater)
      rw [Nat.succ_eq_add_one] at next further
      rw [abs_of_neg (by linarith : x - f.size other < 0), abs_le]
      refine ⟨⟨by linarith, by linarith⟩, fun tie => ?_⟩
      by_contra odd
      refine (inside odd).2 (le_antisymm above ?_)
      rcases abs_cases (x - f.size magnitude) with ⟨same, -⟩ | ⟨same, -⟩ <;> linarith
  refine ⟨inRange, fun other _ => ?_, fun other _ different => (apart other different).2⟩
  by_cases same : other = magnitude
  · rw [same]
  · exact (apart other same).1

/-- What is nearest among all magnitudes is nearest up to infinity once it is cut off there. -/
theorem isNearest_min {magnitude : Nat}
    (closest : ∀ other, |x - f.size magnitude| ≤ |x - f.size other|)
    (even : ∀ other, other ≠ magnitude → |x - f.size other| = |x - f.size magnitude| →
      magnitude % 2 = 0) : f.IsNearest x (min magnitude f.infinity) := by
  rcases le_or_gt magnitude f.infinity with inRange | beyond
  · rw [min_eq_left inRange]
    exact ⟨inRange, fun other _ => closest other, fun other _ => even other⟩
  · rw [min_eq_right beyond.le]
    have less := f.size_strictMono beyond
    have above : f.size f.infinity < x := by
      by_contra below
      have nearer := closest f.infinity
      rw [abs_of_neg (by linarith), abs_of_nonpos (by linarith)] at nearer
      linarith
    have further : ∀ other ≤ f.infinity, other ≠ f.infinity →
        |x - f.size f.infinity| < |x - f.size other| := by
      intro other inRange different
      have smaller := f.size_strictMono (lt_of_le_of_ne inRange different)
      rw [abs_of_pos (by linarith), abs_of_pos (by linarith)]
      linarith
    refine ⟨le_rfl, fun other inRange => ?_, fun other inRange different tie => ?_⟩
    · by_cases same : other = f.infinity
      · rw [same]
      · exact (further other inRange same).le
    · exact absurd tie (further other inRange different).ne'

/-- The unit in which a quotient is rounded leaves it with a significand of full length, or of less
if the unit is the least. -/
theorem inUnits_bounds {numerator denominator : Nat} (nonzero : numerator ≠ 0)
    (positive : 0 < denominator) {unit : Int}
    (exact : unit = max (floorLog2 numerator denominator - f.fractionBits) f.leastUnit) :
    (numerator / denominator / 2 ^ unit : ℚ) < (2 * 2 ^ f.fractionBits : Nat) ∧
      (f.leastUnit < unit →
        ((2 ^ f.fractionBits : Nat) : ℚ) ≤ numerator / denominator / 2 ^ unit) := by
  obtain ⟨above, below⟩ := floorLog2_spec nonzero positive
  have power : ((2 ^ f.fractionBits : Nat) : ℚ) = 2 ^ (f.fractionBits : ℤ) :=
    natCast_pow 2 f.fractionBits
  constructor
  · rw [div_lt_iff₀ (zpow_pos two_pos _), Nat.cast_mul, power, Nat.cast_ofNat, mul_comm (2 : ℚ),
      ← zpow_add_one₀ two_ne_zero, ← zpow_add₀ two_ne_zero]
    exact below.trans_le (zpow_le_zpow_right₀ one_le_two (by omega))
  · intro normal
    rw [le_div_iff₀ (zpow_pos two_pos _), power, ← zpow_add₀ two_ne_zero]
    exact (zpow_le_zpow_right₀ one_le_two (by omega)).trans above

/-- A rounded quotient is a significand of full length, or of less if the unit is the least, and may
carry into the next unit. -/
theorem divideToNearest_bounds {numerator denominator one steps : Nat}
    (positive : 0 < denominator) (below : (numerator / denominator : ℚ) < (2 * one : Nat))
    (full : 0 < steps → (one : ℚ) ≤ numerator / denominator) :
    divideToNearest numerator denominator ≤ 2 * one ∧
      (steps = 0 ∨ one ≤ divideToNearest numerator denominator) := by
  obtain ⟨half, -⟩ := divideToNearest_half numerator positive
  generalize divideToNearest numerator denominator = rounded at *
  obtain ⟨low, high⟩ := abs_le.1 half
  constructor
  · by_contra more
    have step : ((2 * one : Nat) : ℚ) + 1 ≤ rounded := by exact_mod_cast Nat.lt_of_not_le more
    linarith
  · rcases Nat.eq_zero_or_pos steps with none | some
    · exact .inl none
    · refine .inr ?_
      by_contra less
      have step : (rounded : ℚ) + 1 ≤ one := by exact_mod_cast Nat.lt_of_not_le less
      have reached := full some
      linarith

/-- What lies below a whole number of units that a quotient reaches is further off than the number
that the quotient is rounded to. -/
theorem lt_of_below {x unit other : ℚ} {rounded whole : Nat} (positive : 0 < unit)
    (closest : |x - rounded| ≤ |x - whole|) (reached : (whole : ℚ) ≤ x)
    (below : other < whole * unit) : |x - rounded| * unit < |x * unit - other| := by
  have scaled : (whole : ℚ) * unit ≤ x * unit := mul_le_mul_of_nonneg_right reached positive.le
  calc |x - rounded| * unit
      ≤ |x - whole| * unit := mul_le_mul_of_nonneg_right closest positive.le
    _ = x * unit - whole * unit := by rw [abs_of_nonneg (sub_nonneg.2 reached), sub_mul]
    _ < x * unit - other := by linarith
    _ ≤ |x * unit - other| := le_abs_self _

/-- A quotient rounded in its unit is nearest among all magnitudes. -/
theorem closest_of_unit (fraction : 0 < f.fractionBits) {numerator denominator : Nat}
    (nonzero : numerator ≠ 0) (positive : 0 < denominator) {unit : Int}
    (exact : unit = max (floorLog2 numerator denominator - f.fractionBits) f.leastUnit)
    {rounded : Nat}
    (result : rounded = (unit - f.leastUnit).toNat * 2 ^ f.fractionBits +
      divideToNearest (inUnits numerator denominator unit).1
        (inUnits numerator denominator unit).2) (other : Nat) :
    |(numerator / denominator : ℚ) - f.size rounded| ≤
        |(numerator / denominator : ℚ) - f.size other| ∧
      (other ≠ rounded →
        |(numerator / denominator : ℚ) - f.size other| =
          |(numerator / denominator : ℚ) - f.size rounded| → rounded % 2 = 0) := by
  obtain ⟨unitPositive, scaled⟩ := inUnits_spec numerator positive unit
  obtain ⟨below, full⟩ := inUnits_bounds (f := f) nonzero positive exact
  have integer := divideToNearest_closest (inUnits numerator denominator unit).1 unitPositive
  have bounds := @divideToNearest_bounds (inUnits numerator denominator unit).1
    (inUnits numerator denominator unit).2 (2 ^ f.fractionBits) (unit - f.leastUnit).toNat
    unitPositive
  rw [scaled] at integer bounds
  have normal : f.leastUnit ≤ unit := by omega
  obtain ⟨small, long⟩ := bounds below fun more => full (by omega)
  generalize divideToNearest (inUnits numerator denominator unit).1
    (inUnits numerator denominator unit).2 = significand at *
  have power : (0 : ℚ) < 2 ^ unit := zpow_pos two_pos unit
  have unscaled : (numerator / denominator : ℚ) = numerator / denominator / 2 ^ unit * 2 ^ unit :=
    (div_mul_cancel₀ _ power.ne').symm
  rw [unscaled]
  generalize (numerator / denominator / 2 ^ unit : ℚ) = y at *
  have sized : f.size rounded = significand * 2 ^ unit := by
    have exponent : f.leastUnit + (unit - f.leastUnit).toNat = unit := by omega
    rw [result, f.size_eq small long, exponent]
  have distance (z : ℚ) : |y * 2 ^ unit - z * 2 ^ unit| = |y - z| * 2 ^ unit := by
    rw [← sub_mul, abs_mul, abs_of_pos power]
  have parity : significand % 2 = 0 → rounded % 2 = 0 := by
    obtain ⟨bits, exact⟩ := Nat.exists_eq_succ_of_ne_zero fraction.ne'
    rw [result, exact, Nat.pow_succ, ← Nat.mul_assoc]
    omega
  rw [sized, distance]
  rcases f.size_whole_or_lt normal other with ⟨whole, same⟩ | ⟨normal, less⟩
  · obtain ⟨closest, even⟩ := integer whole
    rw [same, distance]
    refine ⟨mul_le_mul_of_nonneg_right closest power.le, fun different tie => parity (even ?_ ?_)⟩
    · rintro rfl
      exact different (f.size_strictMono.injective (same.trans sized.symm))
    · exact mul_right_cancel₀ power.ne' tie
  · -- A magnitude in a lesser unit lies below the significands of full length, unlike the quotient.
    obtain ⟨closest, -⟩ := integer (2 ^ f.fractionBits)
    have nearer := lt_of_below power closest (full normal) less
    exact ⟨nearer.le, fun _ tie => absurd tie nearer.ne'⟩

theorem isNearest_zero : f.IsNearest 0 0 := by
  have none : f.size 0 = 0 := by
    have start := @size_eq f 0 0 (Nat.zero_le _) (.inl rfl)
    rwa [Nat.zero_mul, Nat.cast_zero, zero_mul] at start
  refine ⟨Nat.zero_le _, fun other _ => ?_, fun _ _ _ _ => rfl⟩
  rw [none, sub_zero, abs_zero]
  exact abs_nonneg _

/-- The magnitude of a quotient is the nearest. -/
theorem isNearest_nearest (fraction : 0 < f.fractionBits) (numerator : Nat) {denominator : Nat}
    (positive : 0 < denominator) :
    f.IsNearest (numerator / denominator) (f.nearest numerator denominator) := by
  unfold nearest
  split
  · rename_i zero
    rw [zero, Nat.cast_zero, zero_div]
    exact isNearest_zero
  · rename_i nonzero
    dsimp only
    have closest := closest_of_unit fraction nonzero positive rfl rfl
    exact isNearest_min (fun other => (closest other).1) fun other => (closest other).2

/-- The magnitude of a dyadic number is the nearest. -/
theorem isNearest_nearestDyadic (fraction : 0 < f.fractionBits) (x : Dyadic) :
    f.IsNearest x.toRat (f.nearestDyadic x) := by
  obtain ⟨significand, unit⟩ := x
  unfold nearestDyadic Dyadic.toRat
  dsimp only
  split
  · rename_i up
    have nearest := isNearest_nearest fraction (significand * 2 ^ unit.toNat) Nat.one_pos
    rwa [Nat.cast_one, div_one, Nat.cast_mul, natCast_pow, Int.toNat_of_nonneg up,
      Nat.cast_ofNat] at nearest
  · rename_i down
    have nearest := isNearest_nearest fraction significand (Nat.two_pow_pos (-unit).toNat)
    rwa [natCast_pow, Int.toNat_of_nonneg (by omega), Nat.cast_ofNat, zpow_neg,
      div_inv_eq_mul] at nearest

end Format

end Folio.Number
