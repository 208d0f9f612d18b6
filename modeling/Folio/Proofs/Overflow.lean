import Folio.Proofs.NearestMagnitudes
import Folio.Proofs.NumberBits

/-!
# Products in range

A decimal numeral with a positive exponent is read as a product of two 64-bit numbers, and is refused
when the product is infinite. Here is the range in which that cannot happen. A finite number is a
significand times a power of two; multiplying adds the powers, and rounding afterwards raises the power
by no more than the significands have bits too many.
-/

namespace Folio.Number

-- A power of a number is the built-in one, whatever other powers are in scope.
attribute [local instance (high)] instPowNat

open Float.Model (UnpackedFloat totalExponent)
open Float.Model.UnpackedFloat (ExtendedMantissa Accuracy roundWithAccuracy shiftToTargetExponent
  shiftToExponent)

/-- Whether a number is finite, with a significand below a power of two and a unit that is not too
great. -/
def Within (bits : Nat) (unit : Int) : UnpackedFloat → Prop
  | .zero _ => True
  | .finite _ significand exponent _ => significand < 2 ^ bits ∧ exponent ≤ unit
  | _ => False

/-! ## Rounding -/

theorem mantissa_shiftRight_le (m : ExtendedMantissa) (n : Nat) :
    (m >>> n).mantissa ≤ m.mantissa := by
  have step : ∀ m : ExtendedMantissa, m.shiftRightOne.mantissa ≤ m.mantissa := by
    intro m
    exact Nat.div_le_self _ _
  change (Nat.repeat ExtendedMantissa.shiftRightOne n m).mantissa ≤ m.mantissa
  induction n with
  | zero => exact Nat.le_refl _
  | succ n ih => exact Nat.le_trans (step _) ih

theorem roundedMantissa_le (m : ExtendedMantissa) : m.roundedMantissa ≤ m.mantissa + 1 := by
  obtain ⟨mantissa, round, sticky⟩ := m
  cases round <;> cases sticky <;>
    simp only [ExtendedMantissa.roundedMantissa, ExtendedMantissa.accuracy,
      Accuracy.roundToNearestEven] <;> omega

/-- A shift lowers the significand, and raises the unit by the bits that are too many. -/
theorem shiftToTargetExponent_le {bits significand : Nat} {exponent unit : Int}
    (small : significand < 2 ^ bits) (low : exponent ≤ unit) (wide : 53 ≤ bits)
    (normal : -1074 ≤ unit) :
    (shiftToTargetExponent .binary64 significand exponent .exact).1.mantissa ≤ significand ∧
      (shiftToTargetExponent .binary64 significand exponent .exact).2 ≤ unit + (bits - 53) := by
  have lengths : significand.log2 < bits := by
    rcases Nat.eq_zero_or_pos significand with rfl | positive
    · rw [Nat.log2_zero]
      omega
    · exact (Nat.log2_lt (Nat.pos_iff_ne_zero.1 positive)).2 small
  constructor
  · exact mantissa_shiftRight_le _ _
  · have target (total : Int) : Float.Model.Format.targetExponent .binary64 total =
        max (total - 53) (-1074) := rfl
    simp only [shiftToTargetExponent, shiftToExponent, target, totalExponent]
    omega

/-- Rounding raises the unit by no more than the bits that are too many, and one, each of the two
times that it shifts. -/
theorem within_roundWithAccuracy {bits significand : Nat} {exponent unit : Int}
    (small : significand < 2 ^ bits) (low : exponent ≤ unit) (wide : 53 ≤ bits)
    (normal : -1074 ≤ unit) (sign : Float.Model.UnpackedFloat.Sign) :
    Within (bits + 1) (unit + 2 * (bits - 52))
      (roundWithAccuracy .binary64 sign significand exponent .exact) := by
  obtain ⟨lower, higher⟩ := shiftToTargetExponent_le small low wide normal
  unfold roundWithAccuracy
  dsimp only
  generalize shiftToTargetExponent .binary64 significand exponent .exact = first at *
  have rounded := roundedMantissa_le first.1
  have doubled : 2 ^ (bits + 1) = 2 * 2 ^ bits := by rw [Nat.pow_succ, Nat.mul_comm]
  have positive := Nat.two_pow_pos bits
  have small' : first.1.roundedMantissa < 2 ^ (bits + 1) := by omega
  obtain ⟨lower', higher'⟩ := shiftToTargetExponent_le small' higher (by omega) (by omega)
  generalize shiftToTargetExponent .binary64 first.1.roundedMantissa first.2 .exact = second at *
  by_cases zero : second.1.mantissa = 0
  · rw [dif_pos zero]
    trivial
  · rw [dif_neg zero]
    constructor
    · omega
    · push_cast at higher'
      omega

theorem within_mul {bits bits' : Nat} {unit unit' : Int} {x y : UnpackedFloat}
    (inX : Within bits unit x) (inY : Within bits' unit' y) (wide : 53 ≤ bits + bits')
    (normal : -1074 ≤ unit + unit') :
    Within (bits + bits' + 1) (unit + unit' + 2 * (bits + bits' - 52))
      (UnpackedFloat.mul .binary64 x y) := by
  cases x with
  | infinity => cases inX
  | notANumber => cases inX
  | zero sign =>
    cases y with
    | infinity => cases inY
    | notANumber => cases inY
    | zero sign' => trivial
    | finite sign' n e' _ => trivial
  | finite sign m e _ =>
    cases y with
    | infinity => cases inY
    | notANumber => cases inY
    | zero sign' => trivial
    | finite sign' n e' _ =>
      have product : m * n < 2 ^ (bits + bits') := by
        rw [Nat.pow_add]
        exact Nat.mul_lt_mul'' inX.1 inY.1
      have exponents : e + e' ≤ unit + unit' := Int.add_le_add inX.2 inY.2
      exact within_roundWithAccuracy product exponents wide normal (sign * sign')

/-! ## Bits -/

/-- What is unpacked from bits with an exponent field below the greatest is finite. -/
theorem within_unpack {bits : BitVec (Float.Model.Format.numBits .binary64)} {field : Nat}
    (low : (UnpackedFloat.unpackExponent bits).toNat ≤ field) (finite : field < 2047) :
    Within 53 (field - 1074) (UnpackedFloat.unpack .binary64 bits) := by
  have bias : Float.Model.Format.exponentBias .binary64 = 1023 := rfl
  unfold UnpackedFloat.unpack
  dsimp only
  generalize UnpackedFloat.unpackExponent bits = exponent at *
  rw [if_neg fun greatest => ?_]
  · by_cases zero : exponent = 0#_
    · rw [if_pos zero]
      by_cases nothing : UnpackedFloat.unpackMantissa bits = 0#_
      · rw [dif_pos nothing]
        trivial
      · rw [dif_neg nothing]
        have none : exponent.toNat = 0 := congrArg BitVec.toNat zero
        have small := (UnpackedFloat.unpackMantissa bits).isLt
        constructor
        · exact Nat.lt_trans small (by decide)
        · rw [none, bias]
          omega
    · rw [if_neg zero]
      constructor
      · exact (1#1 ++ UnpackedFloat.unpackMantissa bits).isLt
      · rw [bias]
        omega
  · have most : exponent.toNat = 2047 := congrArg BitVec.toNat greatest
    omega

theorem exponent_pack {bits : Nat} {unit : Int} {x : UnpackedFloat} (inX : Within bits unit x)
    (normal : -1074 ≤ unit) (finite : unit ≤ 970) :
    (UnpackedFloat.unpackExponent (UnpackedFloat.pack .binary64 x)).toNat ≤
      (unit + 1075).toNat := by
  cases x with
  | infinity => cases inX
  | notANumber => cases inX
  | zero sign =>
    unfold UnpackedFloat.pack UnpackedFloat.packedZero
    dsimp only
    rw [UnpackedFloat.unpackExponent_packComponents]
    exact Nat.zero_le _
  | finite sign significand exponent _ =>
    have low : exponent ≤ unit := inX.2
    have bias : Float.Model.Format.exponentBias .binary64 = 1023 := rfl
    have biased : (exponent + 1023 + 52).toNat ≤ (unit + 1075).toNat := by omega
    unfold UnpackedFloat.pack
    dsimp only
    rw [bias]
    split
    · omega
    · split
      · rw [UnpackedFloat.unpackExponent_packComponents, BitVec.toNat_ofNat]
        exact Nat.le_trans (Nat.mod_le _ _) biased
      · rw [UnpackedFloat.unpackExponent_packComponents]
        exact Nat.zero_le _

/-- A finite number that is not too great is finite once it is packed. -/
theorem within_unpack_pack {bits : Nat} {unit : Int} {x : UnpackedFloat}
    (inX : Within bits unit x) (normal : -1074 ≤ unit) (finite : unit ≤ 970) :
    Within 53 (unit + 1) (UnpackedFloat.unpack .binary64 (UnpackedFloat.pack .binary64 x)) := by
  have unpacked := within_unpack (exponent_pack inX normal finite) (by omega)
  have same : ((unit + 1075).toNat : Int) - 1074 = unit + 1 := by omega
  rwa [same] at unpacked

theorem isInf_eq_false_of_within {bits : Nat} {unit : Int} {x : UnpackedFloat}
    (inX : Within bits unit x) : x.isInf = false := by
  cases x with
  | infinity => cases inX
  | notANumber => cases inX
  | zero sign => rfl
  | finite sign m e _ => rfl

/-! ## Naturals as 64-bit numbers -/

/-- The magnitude of a natural number below two to the power of 128 is at most that of the power. -/
theorem nearest_le {n : Nat} (small : n < 2 ^ (128 : Nat)) :
    Format.binary64.nearest n 1 ≤ 1151 * 2 ^ (52 : Nat) := by
  have nearest := Format.isNearest_nearest (f := .binary64) (by decide) n Nat.one_pos
  have power : Format.binary64.size (1150 * 2 ^ 52 + 2 ^ 52) = (2 ^ 52 : Nat) * 2 ^ (76 : ℤ) :=
    Format.binary64.size_eq (by decide) (.inr (by decide))
  have less : (n : ℚ) < (2 ^ 52 : Nat) * 2 ^ (76 : ℤ) := by
    have same : ((2 ^ 52 : Nat) : ℚ) * 2 ^ (76 : ℤ) = (2 ^ (128 : Nat) : Nat) := by norm_num
    rw [same]
    exact_mod_cast small
  by_contra above
  have greater := Format.binary64.size_strictMono (Nat.lt_of_not_le above)
  have closest := nearest.closest (1151 * 2 ^ 52) (by decide)
  have size : Format.binary64.size (1151 * 2 ^ 52) = (2 ^ 52 : Nat) * 2 ^ (76 : ℤ) := power
  rw [Nat.cast_one, div_one, abs_of_neg (by linarith), abs_of_neg (by linarith)] at closest
  linarith

/-- A natural number below two to the power of 128 is within reach as a 64-bit number. -/
theorem within_doubleOfNat {n : Nat} (small : n < 2 ^ (128 : Nat)) :
    Within 53 80 (doubleOfNat n).toModel.unpack := by
  have most := nearest_le small
  have infinity : Format.binary64.infinity = 2047 * 2 ^ 52 := by decide
  have bits : (doubleOfNat n).toBits.toNat = Format.binary64.nearest n 1 :=
    toNat_toBits_double (by omega)
  have field := @toNat_unpackExponent .binary64 (doubleOfNat n).toBits.toBitVec
  change _ = (doubleOfNat n).toBits.toNat / 2 ^ 52 % 2 ^ 11 at field
  have low : (@UnpackedFloat.unpackExponent .binary64 (doubleOfNat n).toBits.toBitVec).toNat ≤
      1154 := by
    rw [field, bits]
    omega
  exact within_unpack low (by decide)

/-- The product of two natural numbers below two to the power of 128 is not infinite. -/
theorem isInf_mul_doubleOfNat {m n : Nat} (smallM : m < 2 ^ (128 : Nat)) (smallN : n < 2 ^ (128 : Nat)) :
    (doubleOfNat m * doubleOfNat n).isInf = false := by
  have product := within_mul (within_doubleOfNat smallM) (within_doubleOfNat smallN)
    (by decide) (by decide)
  exact isInf_eq_false_of_within (within_unpack_pack product (by decide) (by decide))

end Folio.Number
