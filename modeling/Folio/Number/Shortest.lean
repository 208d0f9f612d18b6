import Folio.Number.Binary

/-!
# Shortest decimals

A number is written with the fewest decimal digits that read back as the same number, and of the
decimals with so few digits the nearest is taken. The search walks the decimal grids from coarse to
fine; on each it looks at the two neighbours of the number, because a grid that has any point in
the interval of reals that round to the number has one of the two there.
-/

namespace Folio.Number

-- A power of a number is the built-in one, whatever other powers are in scope.
attribute [local instance (high)] instPowNat

/-- Which of two equally near decimals is taken. -/
inductive Tie where
  | toEven
  | awayFromZero
  deriving DecidableEq, Repr

/-- The reals that round to a number, in quarters of its last place: from `low` to `high` with the
number at `middle`, the ends included when `closed`. -/
structure RoundingInterval where
  low : Nat
  middle : Nat
  high : Nat
  unit : Int
  closed : Bool

/-- The interval of a positive finite magnitude. Below a power of two the next number is half as
far away as above it, except at the smallest exponent; the ends round to the number when its
significand is even. -/
def Format.interval (f : Format) (magnitude : Nat) : RoundingInterval :=
  let ⟨significand, unit⟩ := f.value magnitude
  let narrow := significand = 2 ^ f.fractionBits ∧ f.leastUnit < unit
  { low := 4 * significand - if narrow then 1 else 2
    middle := 4 * significand
    high := 4 * significand + 2
    unit := unit - 2
    closed := significand % 2 = 0 }

/-- The factors that bring multiples of `10 ^ exponent` and of `2 ^ unit` to one scale. -/
def commonScale (exponent unit : Int) : Nat × Nat :=
  (10 ^ exponent.toNat * 2 ^ (-unit).toNat, 2 ^ unit.toNat * 10 ^ (-exponent).toNat)

/-- The neighbour on the grid of multiples of `10 ^ exponent` that stands for the interval, if one
of the two lies inside; of two that do, the nearer. -/
def RoundingInterval.neighbour? (i : RoundingInterval) (tie : Tie) (exponent : Int) : Option Nat :=
  let (tenScale, twoScale) := commonScale exponent i.unit
  let inside (n : Nat) : Bool :=
    let point := n * tenScale
    if i.closed then i.low * twoScale ≤ point ∧ point ≤ i.high * twoScale
    else i.low * twoScale < point ∧ point < i.high * twoScale
  let middle := i.middle * twoScale
  let below := middle / tenScale
  let rest := middle % tenScale
  match inside below, inside (below + 1) with
  | false, false => none
  | true, false => some below
  | false, true => some (below + 1)
  | true, true =>
    if 2 * rest < tenScale then some below
    else if tenScale < 2 * rest then some (below + 1)
    else match tie with
      | .toEven => some (below + below % 2)
      | .awayFromZero => some (below + 1)

/-- The middle of the interval written out in full. -/
def RoundingInterval.exact (i : RoundingInterval) : Decimal :=
  if 0 ≤ i.unit then ⟨i.middle * 2 ^ i.unit.toNat, 0⟩
  else ⟨i.middle * 5 ^ (-i.unit).toNat, i.unit⟩

/-- An exponent of ten above the interval, by the estimate of log₁₀ 2 as 0.30103. -/
def RoundingInterval.topExponent (i : RoundingInterval) : Int :=
  ((i.middle.log2 : Int) + i.unit + 1) * 30103 / 100000 + 1

/-- The shortest decimal of a positive finite magnitude. Twenty grids are enough: the finest of
them has more than seventeen digits. -/
def Format.shortest (f : Format) (tie : Tie) (magnitude : Nat) : Decimal :=
  let i := f.interval magnitude
  let top := i.topExponent
  let hit := (List.range 20).findSome? fun (step : Nat) =>
    let exponent := top - step
    (i.neighbour? tie exponent).map fun digits => Decimal.mk digits exponent
  hit.getD i.exact

end Folio.Number
