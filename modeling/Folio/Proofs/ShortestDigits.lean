import Folio.Number.Notation
import Folio.Proofs.NearestMagnitudes

/-!
# What the shortest digits stand for

The shortest decimal of a number is found by a search over decimal grids, from the coarse to the
fine. What it finds lies in the interval of the numbers that round to the number it is for
(`contains_shortest`), so that number is the nearest to its digits (`isNearest_shortest`). For 32
bits twelve steps of the search are enough: no grid point can be missed by then. So there are few
digits, and the first of them stands at a power of ten below the 39th.
-/

namespace Folio.Number

-- A power of a number is the built-in one, whatever other powers are in scope.
attribute [local instance (high)] instPowNat

/-- Whether a number lies in an interval; the ends count if the interval has them. -/
structure RoundingInterval.Contains (i : RoundingInterval) (x : ℚ) : Prop where
  above : i.low * 2 ^ i.unit ≤ x
  below : x ≤ i.high * 2 ^ i.unit
  inside : i.closed = false → i.low * 2 ^ i.unit ≠ x ∧ x ≠ i.high * 2 ^ i.unit

/-! ## One scale -/

/-- On the common scale powers of ten and of two keep their relation. -/
theorem commonScale_spec (exponent unit : Int) :
    ∃ scale : ℚ, 0 < scale ∧ ((commonScale exponent unit).1 : ℚ) = 10 ^ exponent * scale ∧
      ((commonScale exponent unit).2 : ℚ) = 2 ^ unit * scale := by
  have split (base : Nat) (positive : 0 < base) (e : Int) :
      ((base ^ e.toNat : Nat) : ℚ) = (base : ℚ) ^ e * (base ^ (-e).toNat : Nat) := by
    have nonzero : (base : ℚ) ≠ 0 := Nat.cast_ne_zero.2 positive.ne'
    have exponents : (e.toNat : ℤ) = e + (-e).toNat := by omega
    rw [natCast_pow, natCast_pow, ← zpow_add₀ nonzero, ← exponents]
  refine ⟨(10 ^ (-exponent).toNat * 2 ^ (-unit).toNat : Nat), ?_, ?_, ?_⟩
  · exact Nat.cast_pos.2 (Nat.mul_pos (Nat.pow_pos (by decide)) (Nat.two_pow_pos _))
  · rw [commonScale, Nat.cast_mul, split 10 (by decide), Nat.cast_mul, Nat.cast_ofNat, mul_assoc]
  · rw [commonScale, Nat.cast_mul, split 2 (by decide), Nat.cast_mul, Nat.cast_ofNat]
    ring

section

variable {exponent unit : Int} {m n : Nat}

theorem two_le_ten_iff : m * (commonScale exponent unit).2 ≤ n * (commonScale exponent unit).1 ↔
    (m : ℚ) * 2 ^ unit ≤ n * 10 ^ exponent := by
  obtain ⟨scale, positive, ten, two⟩ := commonScale_spec exponent unit
  rw [← Nat.cast_le (α := ℚ), Nat.cast_mul, Nat.cast_mul, ten, two, ← mul_assoc, ← mul_assoc,
    mul_le_mul_iff_of_pos_right positive]

theorem ten_le_two_iff : n * (commonScale exponent unit).1 ≤ m * (commonScale exponent unit).2 ↔
    (n : ℚ) * 10 ^ exponent ≤ m * 2 ^ unit := by
  obtain ⟨scale, positive, ten, two⟩ := commonScale_spec exponent unit
  rw [← Nat.cast_le (α := ℚ), Nat.cast_mul, Nat.cast_mul, ten, two, ← mul_assoc, ← mul_assoc,
    mul_le_mul_iff_of_pos_right positive]

theorem two_lt_ten_iff : m * (commonScale exponent unit).2 < n * (commonScale exponent unit).1 ↔
    (m : ℚ) * 2 ^ unit < n * 10 ^ exponent := by
  rw [← Nat.not_le, ten_le_two_iff, not_le]

theorem ten_lt_two_iff : n * (commonScale exponent unit).1 < m * (commonScale exponent unit).2 ↔
    (n : ℚ) * 10 ^ exponent < m * 2 ^ unit := by
  rw [← Nat.not_le, two_le_ten_iff, not_le]

end

/-! ## The search -/

section

variable {i : RoundingInterval} {tie : Tie} {exponent : Int}

/-- Whether a point of a grid is seen to lie in the interval. -/
def RoundingInterval.sees (i : RoundingInterval) (exponent : Int) (n : Nat) : Bool :=
  if i.closed then
    i.low * (commonScale exponent i.unit).2 ≤ n * (commonScale exponent i.unit).1 ∧
      n * (commonScale exponent i.unit).1 ≤ i.high * (commonScale exponent i.unit).2
  else
    i.low * (commonScale exponent i.unit).2 < n * (commonScale exponent i.unit).1 ∧
      n * (commonScale exponent i.unit).1 < i.high * (commonScale exponent i.unit).2

theorem sees_iff {n : Nat} : i.sees exponent n = true ↔ i.Contains (Decimal.mk n exponent).toRat := by
  unfold RoundingInterval.sees Decimal.toRat
  simp only [two_le_ten_iff, ten_le_two_iff, two_lt_ten_iff, ten_lt_two_iff]
  cases closed : i.closed with
  | true =>
    rw [if_pos rfl, decide_eq_true_iff]
    constructor
    · rintro ⟨above, below⟩
      exact ⟨above, below, fun opened => by rw [closed] at opened; cases opened⟩
    · rintro ⟨above, below, -⟩
      exact ⟨above, below⟩
  | false =>
    rw [if_neg Bool.false_ne_true, decide_eq_true_iff]
    constructor
    · rintro ⟨above, below⟩
      exact ⟨above.le, below.le, fun _ => ⟨above.ne, below.ne⟩⟩
    · rintro ⟨above, below, inside⟩
      exact ⟨lt_of_le_of_ne above (inside closed).1, lt_of_le_of_ne below (inside closed).2⟩

theorem sees_of_neighbour? {n : Nat} (found : i.neighbour? tie exponent = some n) :
    i.sees exponent n = true := by
  unfold RoundingInterval.neighbour? at found
  dsimp only at found
  generalize exact : i.middle * (commonScale exponent i.unit).2 /
    (commonScale exponent i.unit).1 = below at found
  split at found
  · cases found
  · rename_i lower _
    cases found
    exact lower
  · rename_i _ upper
    cases found
    exact upper
  · rename_i lower upper
    split at found
    · cases found
      exact lower
    · split at found
      · cases found
        exact upper
      · cases tie with
        | toEven =>
          cases found
          rcases Nat.mod_two_eq_zero_or_one below with even | odd
          · rw [even]
            exact lower
          · rw [odd]
            exact upper
        | awayFromZero =>
          cases found
          exact upper

theorem sees_of_neighbour?_eq_none (missed : i.neighbour? tie exponent = none) :
    i.sees exponent (i.middle * (commonScale exponent i.unit).2 /
      (commonScale exponent i.unit).1 + 1) = false := by
  unfold RoundingInterval.neighbour? at missed
  dsimp only at missed
  split at missed
  · rename_i upper
    exact upper
  · cases missed
  · cases missed
  · split at missed
    · cases missed
    · split at missed
      · cases missed
      · cases tie <;> cases missed

/-- No interval is missed by a grid that is as fine as its unit. -/
theorem neighbour?_ne_none (fine : (10 : ℚ) ^ exponent ≤ 2 ^ i.unit) (low : i.low ≤ i.middle)
    (high : i.middle + 2 ≤ i.high) : i.neighbour? tie exponent ≠ none := by
  intro missed
  have unseen := sees_of_neighbour?_eq_none missed
  have order := @ten_le_two_iff exponent i.unit 1 1
  rw [Nat.one_mul, Nat.one_mul, Nat.cast_one, one_mul, one_mul] at order
  have finer := order.2 fine
  unfold RoundingInterval.sees at unseen
  have positive : 0 < (commonScale exponent i.unit).1 :=
    Nat.mul_pos (Nat.pow_pos (by decide)) (Nat.two_pow_pos _)
  generalize commonScale exponent i.unit = scales at *
  obtain ⟨ten, two⟩ := scales
  dsimp only at finer positive unseen
  have parts := Nat.div_add_mod (i.middle * two) ten
  have rest := Nat.mod_lt (i.middle * two) positive
  generalize i.middle * two / ten = below at *
  have next : (below + 1) * ten = ten * below + ten := by ring
  have above : i.low * two < (below + 1) * ten := by
    have least := Nat.mul_le_mul_right two low
    omega
  have under : (below + 1) * ten < i.high * two := by
    have most := Nat.mul_le_mul_right two high
    rw [Nat.add_mul] at most
    omega
  rw [decide_eq_true ⟨above.le, under.le⟩, decide_eq_true ⟨above, under⟩, ite_self] at unseen
  cases unseen

end

theorem contains_exact {i : RoundingInterval} (low : i.low < i.middle) (high : i.middle < i.high) :
    i.Contains i.exact.toRat := by
  have power : (0 : ℚ) < 2 ^ i.unit := zpow_pos two_pos _
  have equal : i.exact.toRat = i.middle * 2 ^ i.unit := by
    unfold RoundingInterval.exact Decimal.toRat
    split
    · rename_i whole
      rw [Nat.cast_mul, natCast_pow, Int.toNat_of_nonneg whole, Nat.cast_ofNat, zpow_zero, mul_one]
    · rename_i part
      have ten : (10 : ℚ) ^ i.unit = 5 ^ i.unit * 2 ^ i.unit := by
        rw [← mul_zpow]
        norm_num
      have five : (5 : ℚ) ^ (-i.unit) * 5 ^ i.unit = 1 := by
        rw [← zpow_add₀ (by norm_num), neg_add_cancel, zpow_zero]
      rw [Nat.cast_mul, natCast_pow, Int.toNat_of_nonneg (by omega), Nat.cast_ofNat, ten,
        mul_assoc, ← mul_assoc _ ((5 : ℚ) ^ i.unit), five, one_mul]
  have above : (i.low : ℚ) * 2 ^ i.unit < i.middle * 2 ^ i.unit :=
    mul_lt_mul_of_pos_right (Nat.cast_lt.2 low) power
  have below : (i.middle : ℚ) * 2 ^ i.unit < i.high * 2 ^ i.unit :=
    mul_lt_mul_of_pos_right (Nat.cast_lt.2 high) power
  rw [equal]
  exact ⟨above.le, below.le, fun _ => ⟨above.ne, below.ne⟩⟩

/-- The interval has the number that it is for in its middle, and both its neighbours outside. -/
theorem interval_bounds (f : Format) {magnitude : Nat}
    (positive : 0 < (f.value magnitude).significand) :
    0 < (f.interval magnitude).low ∧
      (f.interval magnitude).low < (f.interval magnitude).middle ∧
      (f.interval magnitude).high = (f.interval magnitude).middle + 2 ∧
      (f.interval magnitude).middle = 4 * (f.value magnitude).significand ∧
      (f.interval magnitude).unit = (f.value magnitude).unit - 2 := by
  unfold Format.interval
  generalize f.value magnitude = x at *
  dsimp only
  refine ⟨?_, ?_, rfl, rfl, rfl⟩ <;> split <;> omega

/-- The shortest decimal of a number lies in the interval of the numbers that round to it. -/
theorem contains_shortest (f : Format) (tie : Tie) {magnitude : Nat}
    (positive : 0 < (f.value magnitude).significand) :
    (f.interval magnitude).Contains (f.shortest tie magnitude).toRat := by
  obtain ⟨-, low, high, -, -⟩ := interval_bounds f positive
  unfold Format.shortest
  dsimp only
  cases search : (List.range 20).findSome? fun (step : Nat) =>
      ((f.interval magnitude).neighbour? tie ((f.interval magnitude).topExponent - step)).map
        fun digits => Decimal.mk digits ((f.interval magnitude).topExponent - step) with
  | none => exact contains_exact low (by omega)
  | some decimal =>
    obtain ⟨step, -, hit⟩ := List.exists_of_findSome?_eq_some search
    obtain ⟨digits, found, rfl⟩ := Option.map_eq_some_iff.1 hit
    exact sees_iff.1 (sees_of_neighbour? found)

/-- The ends of the interval are the middles of the ways to the neighbours. -/
theorem middles_interval {f : Format} {magnitude : Nat} (positive : 0 < magnitude) :
    (∀ other, other + 1 = magnitude → f.size other + f.size magnitude =
      2 * ((f.interval magnitude).low * 2 ^ (f.interval magnitude).unit)) ∧
      f.size magnitude + f.size (magnitude + 1) =
        2 * ((f.interval magnitude).high * 2 ^ (f.interval magnitude).unit) := by
  obtain ⟨steps, significand, rfl, small, normal⟩ := f.exists_significand magnitude
  have one := Nat.two_pow_pos f.fractionBits
  have quarter : (2 : ℚ) ^ (f.leastUnit + steps - 2) = 2 ^ (f.leastUnit + steps) / 4 := by
    rw [zpow_sub₀ two_ne_zero]
    norm_num
  have nonzero : 0 < significand := by
    rcases normal with rfl | full
    · omega
    · omega
  unfold Format.interval
  rw [f.value_eq small normal, f.size_eq small.le normal]
  dsimp only
  rw [quarter]
  constructor
  · intro other before
    split
    · rename_i narrow
      obtain ⟨least, higher⟩ := narrow
      obtain ⟨below, rfl⟩ := Nat.exists_eq_succ_of_ne_zero (by omega : steps ≠ 0)
      have half : (2 : ℚ) ^ (f.leastUnit + (below + 1 : Nat)) = 2 ^ (f.leastUnit + below) * 2 := by
        rw [Nat.cast_succ, ← add_assoc, zpow_add_one₀ two_ne_zero]
      have same : other = below * 2 ^ f.fractionBits + (2 * 2 ^ f.fractionBits - 1) := by
        rw [least, Nat.succ_mul] at before
        omega
      rw [same, f.size_eq (by omega) (by omega), Nat.succ_eq_add_one, half, least,
        Nat.cast_sub (by omega), Nat.cast_sub (by omega)]
      push_cast
      ring
    · rename_i wide
      have same : other = steps * 2 ^ f.fractionBits + (significand - 1) := by omega
      have full : steps = 0 ∨ 2 ^ f.fractionBits ≤ significand - 1 := by
        by_contra short
        exact wide (by omega)
      rw [same, f.size_eq (by omega) full, Nat.cast_sub (by omega), Nat.cast_sub (by omega)]
      push_cast
      ring
  · rw [add_assoc, f.size_eq (by omega) (by omega)]
    push_cast
    ring

/-- Whether a magnitude is even is told by its significand. -/
theorem closed_interval {f : Format} (fraction : 0 < f.fractionBits) {magnitude : Nat}
    (odd : magnitude % 2 ≠ 0) : (f.interval magnitude).closed = false := by
  obtain ⟨steps, significand, rfl, small, normal⟩ := f.exists_significand magnitude
  obtain ⟨bits, exact⟩ := Nat.exists_eq_succ_of_ne_zero fraction.ne'
  unfold Format.interval
  rw [f.value_eq small normal]
  rw [exact, Nat.pow_succ, ← Nat.mul_assoc] at odd
  exact decide_eq_false (by omega)

/-- A magnitude is nearest to what lies in its interval. -/
theorem isNearest_of_contains {f : Format} (fraction : 0 < f.fractionBits) {magnitude : Nat}
    (positive : 0 < magnitude) (finite : magnitude < f.infinity) {x : ℚ}
    (contains : (f.interval magnitude).Contains x) : f.IsNearest x magnitude := by
  obtain ⟨low, high⟩ := middles_interval (f := f) positive
  obtain ⟨above, below, inside⟩ := contains
  refine Format.isNearest_of_between finite.le ?_ ?_ ?_
  · intro other before
    rw [low other before]
    linarith
  · rw [high]
    linarith
  · intro odd
    obtain ⟨notLow, notHigh⟩ := inside (closed_interval fraction odd)
    constructor
    · intro other before tie
      rw [low other before] at tie
      exact notLow (by linarith)
    · intro tie
      rw [high] at tie
      exact notHigh (by linarith)

theorem significand_pos {f : Format} {magnitude : Nat} (positive : 0 < magnitude) :
    0 < (f.value magnitude).significand := by
  obtain ⟨steps, significand, rfl, small, normal⟩ := f.exists_significand magnitude
  have one := Nat.two_pow_pos f.fractionBits
  rw [f.value_eq small normal]
  dsimp only
  rcases normal with rfl | full <;> omega

/-- A number is the nearest to its shortest decimal. -/
theorem isNearest_shortest {f : Format} (fraction : 0 < f.fractionBits) (tie : Tie)
    {magnitude : Nat} (positive : 0 < magnitude) (finite : magnitude < f.infinity) :
    f.IsNearest (f.shortest tie magnitude).toRat magnitude :=
  isNearest_of_contains fraction positive finite (contains_shortest f tie (significand_pos positive))

/-! ## Single precision -/

/-- The estimate of the power of ten above a power of two, over all exponents that a 32-bit number
can have: it is above, and twelve places below it is finer than any bit of the number. -/
theorem topExponent_table : ∀ k : Nat, k < 320 →
    (commonScale (((k : Int) - 160) * 30103 / 100000 + 1) (k - 160)).2 ≤
        (commonScale (((k : Int) - 160) * 30103 / 100000 + 1) (k - 160)).1 ∧
      (commonScale (((k : Int) - 160) * 30103 / 100000 + 1 - 12) (k - 160 - 26)).1 ≤
        (commonScale (((k : Int) - 160) * 30103 / 100000 + 1 - 12) (k - 160 - 26)).2 := by
  decide +kernel

theorem topExponent_spec {exponent : Int} (low : -160 ≤ exponent) (high : exponent < 160) :
    (2 : ℚ) ^ exponent ≤ 10 ^ (exponent * 30103 / 100000 + 1) ∧
      (10 : ℚ) ^ (exponent * 30103 / 100000 + 1 - 12) ≤ 2 ^ (exponent - 26) := by
  obtain ⟨above, fine⟩ := topExponent_table (exponent + 160).toNat (by omega)
  have same : ((exponent + 160).toNat : Int) - 160 = exponent := by omega
  rw [same] at above fine
  have aboveOne := @two_le_ten_iff (exponent * 30103 / 100000 + 1) exponent 1 1
  have fineOne := @ten_le_two_iff (exponent * 30103 / 100000 + 1 - 12) (exponent - 26) 1 1
  rw [Nat.one_mul, Nat.one_mul, Nat.cast_one, one_mul, one_mul] at aboveOne fineOne
  exact ⟨aboveOne.1 above, fineOne.1 fine⟩

theorem value_binary32 {magnitude : Nat} (positive : 0 < magnitude)
    (finite : magnitude < Format.binary32.infinity) :
    0 < (Format.binary32.value magnitude).significand ∧
      (Format.binary32.value magnitude).significand < 2 ^ (24 : Nat) ∧
      -149 ≤ (Format.binary32.value magnitude).unit ∧
      (Format.binary32.value magnitude).unit ≤ 104 := by
  have least : Format.binary32.leastUnit = -149 := by decide
  have fraction : Format.binary32.fractionBits = 23 := rfl
  have infinity : Format.binary32.infinity = 255 * 2 ^ 23 := by decide
  obtain ⟨steps, significand, rfl, small, normal⟩ :=
    Format.binary32.exists_significand magnitude
  rw [Format.binary32.value_eq small normal]
  rw [fraction] at *
  dsimp only
  omega

/-- The search has found a decimal by its twelfth step. -/
theorem exists_step {magnitude : Nat} (positive : 0 < magnitude)
    (finite : magnitude < Format.binary32.infinity) (tie : Tie) :
    ∃ step : Nat, step ≤ 12 ∧ (Format.binary32.shortest tie magnitude).exponent =
      (Format.binary32.interval magnitude).topExponent - step := by
  obtain ⟨nonzero, small, low, high⟩ := value_binary32 positive finite
  obtain ⟨-, below, above, middle, unit⟩ := interval_bounds Format.binary32 nonzero
  have fine : (Format.binary32.interval magnitude).neighbour? tie
      ((Format.binary32.interval magnitude).topExponent - (12 : Nat)) ≠ none := by
    refine neighbour?_ne_none ?_ below.le above.ge
    have short : (Format.binary32.interval magnitude).middle.log2 < 26 :=
      (Nat.log2_lt (by omega)).2 (by omega)
    obtain ⟨-, finer⟩ := @topExponent_spec ((Format.binary32.interval magnitude).middle.log2 +
      (Format.binary32.interval magnitude).unit + 1) (by omega) (by omega)
    exact finer.trans (zpow_le_zpow_right₀ one_le_two (by omega))
  unfold Format.shortest
  dsimp only
  generalize (Format.binary32.interval magnitude) = i at *
  cases search : (List.range 20).findSome? fun (step : Nat) =>
      (i.neighbour? tie (i.topExponent - step)).map
        fun digits => Decimal.mk digits (i.topExponent - step) with
  | none =>
    have missed := List.findSome?_eq_none_iff.1 search 12 (by decide)
    exact absurd (Option.map_eq_none_iff.1 missed) fine
  | some decimal =>
    obtain ⟨before, step, after, split, hit, missed⟩ := List.findSome?_eq_some_iff.1 search
    obtain ⟨digits, found, rfl⟩ := Option.map_eq_some_iff.1 hit
    refine ⟨step, ?_, rfl⟩
    have sorted : (before ++ step :: after).Pairwise (· < ·) := by
      rw [← split]
      exact List.pairwise_lt_range
    have twelfth : 12 ∈ before ++ step :: after := by
      rw [← split]
      decide
    rcases List.mem_append.1 twelfth with earlier | later
    · exact absurd (Option.map_eq_none_iff.1 (missed 12 earlier)) fine
    · rcases List.mem_cons.1 later with same | later
      · exact same.ge
      · exact (List.rel_of_pairwise_cons (List.pairwise_append.1 sorted).2.1 later).le

theorem pow_digitCount_le {n : Nat} (positive : 0 < n) : 10 ^ (digitCount n - 1) ≤ n := by
  by_contra less
  have someDigit : 0 < digitCount n := List.length_pos_iff.2 Nat.toDigits_ne_nil
  rcases Nat.eq_zero_or_pos (digitCount n - 1) with none | more
  · rw [none, Nat.pow_zero] at less
    omega
  · have fewer : digitCount n ≤ digitCount n - 1 :=
      (Nat.length_toDigits_le_iff (by decide) more).2 (Nat.lt_of_not_le less)
    omega

/-- The shortest decimal of a 32-bit number has few digits, not all of them zeros, and its digits
stand at powers of ten between the 64th below one and the 39th above. -/
theorem shortest_binary32 {magnitude : Nat} (positive : 0 < magnitude)
    (finite : magnitude < Format.binary32.infinity) (tie : Tie) :
    0 < (Format.binary32.shortest tie magnitude).digits ∧
      (Format.binary32.shortest tie magnitude).digits < 10 ^ (13 : Nat) ∧
      -64 ≤ (Format.binary32.shortest tie magnitude).exponent ∧
      digitCount (Format.binary32.shortest tie magnitude).digits +
        (Format.binary32.shortest tie magnitude).exponent ≤ 39 := by
  obtain ⟨nonzero, small, low, high⟩ := value_binary32 positive finite
  obtain ⟨someLow, lower, upper, middle, unit⟩ := interval_bounds Format.binary32 nonzero
  obtain ⟨above, below, -⟩ := contains_shortest Format.binary32 tie nonzero
  obtain ⟨step, early, exponent⟩ := exists_step positive finite tie
  unfold RoundingInterval.topExponent at exponent
  unfold Decimal.toRat at above below
  generalize Format.binary32.interval magnitude = i at *
  generalize Format.binary32.shortest tie magnitude = x at *
  have short : i.middle.log2 < 26 := (Nat.log2_lt (by omega)).2 (by omega)
  obtain ⟨top, -⟩ := @topExponent_spec (i.middle.log2 + i.unit + 1) (by omega) (by omega)
  have ten (n : ℤ) : (0 : ℚ) < 10 ^ n := zpow_pos (by norm_num) n
  have two : (0 : ℚ) < 2 ^ i.unit := zpow_pos two_pos _
  have someDigits : 0 < x.digits := by
    have positive : (0 : ℚ) < x.digits * 10 ^ x.exponent :=
      (mul_pos (Nat.cast_pos.2 someLow) two).trans_le above
    exact Nat.cast_pos.1 (pos_of_mul_pos_left positive (ten _).le)
  refine ⟨someDigits, ?_, by omega, ?_⟩
  · have reached : (x.digits : ℚ) * 10 ^ x.exponent ≤ 2 * 10 ^ step * 10 ^ x.exponent := by
      have power : (i.high : ℚ) ≤ 2 * 2 ^ (i.middle.log2 + 1 : ℤ) := by
        have next := (zpow_log2_le (n := i.middle) (by omega)).2
        have twice : (i.high : ℚ) ≤ 2 * i.middle := by exact_mod_cast (by omega)
        linarith
      have places : (i.middle.log2 + i.unit + 1) * 30103 / 100000 + 1 = step + x.exponent := by
        omega
      have split : (2 : ℚ) ^ (i.middle.log2 + i.unit + 1 : ℤ) =
          2 ^ (i.middle.log2 + 1 : ℤ) * 2 ^ i.unit := by
        rw [← zpow_add₀ two_ne_zero, add_right_comm]
      rw [places, split, zpow_add₀ (a := (10 : ℚ)) (by norm_num), zpow_natCast] at top
      calc (x.digits : ℚ) * 10 ^ x.exponent
          ≤ i.high * 2 ^ i.unit := below
        _ ≤ 2 * 2 ^ (i.middle.log2 + 1 : ℤ) * 2 ^ i.unit := mul_le_mul_of_nonneg_right power two.le
        _ ≤ 2 * 10 ^ step * 10 ^ x.exponent := by linarith
    have digits : x.digits ≤ 2 * 10 ^ step := by
      exact_mod_cast le_of_mul_le_mul_right reached (ten _)
    have most : 10 ^ step ≤ 10 ^ 12 := Nat.pow_le_pow_right (by decide) early
    omega
  · have most : (x.digits : ℚ) * 10 ^ x.exponent < 10 ^ (39 : ℤ) := by
      have power : (2 : ℚ) ^ i.unit ≤ 2 ^ (102 : ℤ) := zpow_le_zpow_right₀ one_le_two (by omega)
      have count : (i.high : ℚ) ≤ 2 ^ (26 : ℕ) := by
        exact_mod_cast (by omega : i.high ≤ 2 ^ 26)
      calc (x.digits : ℚ) * 10 ^ x.exponent
          ≤ i.high * 2 ^ i.unit := below
        _ ≤ 2 ^ (26 : ℕ) * 2 ^ (102 : ℤ) := mul_le_mul count power two.le (by norm_num)
        _ < 10 ^ (39 : ℤ) := by norm_num
    have least : (10 : ℚ) ^ ((digitCount x.digits - 1 : Nat) + x.exponent) ≤
        x.digits * 10 ^ x.exponent := by
      rw [zpow_add₀ (by norm_num), zpow_natCast]
      refine mul_le_mul_of_nonneg_right ?_ (ten _).le
      exact_mod_cast pow_digitCount_le someDigits
    have places := (zpow_lt_zpow_iff_right₀ (by norm_num)).1 (least.trans_lt most)
    omega

end Folio.Number
