import Folio.Proofs.NearestMagnitudes
import Folio.Proofs.NumberBits

/-!
# Numbers rounded

A 64-bit number becomes a 32-bit one of its sign and of the magnitude nearest to its own; infinity
stays infinity, and what is no number stays none (`Rounds`). There is one such number for every
64-bit number, and that is what it becomes (`rounds_iff`). A natural number becomes the 64-bit
number nearest to it (`isNearestDouble_doubleOfNat`).
-/

namespace Folio.Number

/-- Whether a 64-bit number is the positive one nearest to a number. -/
structure IsNearestDouble (x : ℚ) (y : Float) : Prop where
  positive : doubleNegative y = false
  nearest : Format.binary64.IsNearest x (doubleMagnitude y)

theorem isNearestDouble_doubleOfNat (n : Nat) : IsNearestDouble n (doubleOfNat n) := by
  have nearest := Format.isNearest_nearest (f := .binary64) (by decide) n Nat.one_pos
  rw [Nat.cast_one, div_one] at nearest
  unfold doubleOfNat
  constructor
  · exact doubleNegative_double nearest.inRange
  · rwa [doubleMagnitude_double nearest.inRange]

/-- Whether a 32-bit number is a 64-bit number rounded. -/
inductive Rounds (x : Float) (y : Float32) : Prop where
  | finite (finite : doubleMagnitude x < Format.binary64.infinity)
      (sign : singleNegative y = doubleNegative x)
      (nearest : Format.binary32.IsNearest (Format.binary64.size (doubleMagnitude x))
        (singleMagnitude y))
  | infinite (infinite : doubleMagnitude x = Format.binary64.infinity)
      (sign : singleNegative y = doubleNegative x)
      (magnitude : singleMagnitude y = Format.binary32.infinity)
  | notANumber (beyond : Format.binary64.infinity < doubleMagnitude x) (nan : y.isNaN = true)

/-- A 64-bit number is rounded to what it becomes in 32 bits. -/
theorem rounds_singleOfDouble (x : Float) : Rounds x (singleOfDouble x) := by
  unfold singleOfDouble
  dsimp only
  split
  · rename_i finite
    have nearest := Format.isNearest_nearestDyadic (f := .binary32) (by decide)
      (Format.binary64.value (doubleMagnitude x))
    refine .finite finite (singleNegative_single _ nearest.inRange) ?_
    rwa [singleMagnitude_single _ nearest.inRange]
  · split
    · rename_i infinite
      exact .infinite infinite (singleNegative_single _ le_rfl) (singleMagnitude_single _ le_rfl)
    · refine .notANumber (by omega) ?_
      decide

/-- No other 32-bit number is the same 64-bit number rounded. -/
theorem Rounds.eq {x : Float} {y z : Float32} (rounds : Rounds x y) (rounds' : Rounds x z) :
    y = z := by
  cases rounds with
  | finite finite sign nearest =>
    cases rounds' with
    | finite _ sign' nearest' => exact eq_of_magnitude (sign.trans sign'.symm) (nearest.eq nearest')
    | infinite infinite => omega
    | notANumber beyond => omega
  | infinite infinite sign magnitude =>
    cases rounds' with
    | finite finite => omega
    | infinite _ sign' magnitude' =>
      exact eq_of_magnitude (sign.trans sign'.symm) (magnitude.trans magnitude'.symm)
    | notANumber beyond => omega
  | notANumber beyond nan =>
    cases rounds' with
    | finite finite => omega
    | infinite infinite => omega
    | notANumber _ nan' => exact eq_of_isNaN nan nan'

theorem rounds_iff {x : Float} {y : Float32} : Rounds x y ↔ y = singleOfDouble x := by
  constructor
  · exact fun rounds => rounds.eq (rounds_singleOfDouble x)
  · rintro rfl
    exact rounds_singleOfDouble x

end Folio.Number
