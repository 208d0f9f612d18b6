import Folio.Number.Binary

/-!
# The bits of numbers

A number keeps its bits: what is unpacked from bits and packed again is the same, unless the bits
are one of the many that stand for what is no number (`pack_unpack`). So a number made of a sign and
a magnitude has that sign and that magnitude, and is told by them.
-/

namespace Folio.Number

-- A power of a number is the built-in one, whatever other powers are in scope.
attribute [local instance (high)] instPowNat

open Float.Model.UnpackedFloat (pack unpack packComponents packedNaN unpackSign unpackExponent
  unpackMantissa Sign)

/-! ## Packing -/

section

variable {spec : Float.Model.Format}

theorem toBitVec_ofBitVec (s : BitVec 1) : (Sign.ofBitVec s).toBitVec = s := by
  revert s
  decide

/-- Bits are made of their sign, exponent and mantissa. -/
theorem packComponents_unpack (bits : BitVec spec.numBits) :
    packComponents spec (Sign.ofBitVec (unpackSign bits)) (unpackExponent bits)
      (unpackMantissa bits) = bits := by
  have wide := spec.hm
  have wide' := spec.he
  unfold packComponents
  rw [toBitVec_ofBitVec]
  refine BitVec.eq_of_getLsbD_eq fun i small => ?_
  unfold unpackSign unpackExponent unpackMantissa
  simp only [BitVec.getLsbD_append, BitVec.getLsbD_cast, BitVec.getLsbD_extractLsb]
  rcases Nat.lt_or_ge i spec.mantissaBitsWithoutImplicit with low | high
  · rw [if_pos low, Nat.zero_add, decide_eq_true (by omega), Bool.true_and]
  · rw [if_neg (Nat.not_lt.2 high)]
    rcases Nat.lt_or_ge (i - spec.mantissaBitsWithoutImplicit) spec.exponentBits with below | last
    · rw [if_pos below, decide_eq_true (by omega), Bool.true_and, Nat.add_sub_cancel' high]
    · have index : spec.mantissaBitsWithoutImplicit + spec.exponentBits +
          (i - spec.mantissaBitsWithoutImplicit - spec.exponentBits) = i := by omega
      rw [if_neg (Nat.not_lt.2 last), decide_eq_true (by omega), Bool.true_and, index]

/-- A subnormal number is packed with its significand as the mantissa. -/
theorem pack_subnormal (wide : 2 ≤ spec.exponentBits) (sign : Sign)
    (mantissa : BitVec spec.mantissaBitsWithoutImplicit) {exponent : Int}
    (least : exponent + spec.exponentBias + spec.mantissaBitsWithoutImplicit = 1)
    (positive : 0 < mantissa.toNat) :
    pack spec (.finite sign mantissa.toNat exponent positive) =
      packComponents spec sign 0#_ mantissa := by
  have length : mantissa.toNat.log2 < spec.mantissaBitsWithoutImplicit :=
    (Nat.log2_lt (Nat.ne_of_gt positive)).2 mantissa.isLt
  have fields : 2 ^ 2 ≤ 2 ^ spec.exponentBits := Nat.pow_le_pow_right (by decide) wide
  have bits : spec.mantissaBits = 1 + spec.mantissaBitsWithoutImplicit := rfl
  unfold pack
  dsimp only
  rw [least, if_neg (by omega), if_neg (by omega), BitVec.ofNat_toNat, BitVec.setWidth_eq]

/-- A normal number is packed with its significand as the mantissa, without the first bit. -/
theorem pack_normal (sign : Sign) (field : BitVec spec.exponentBits)
    (mantissa : BitVec spec.mantissaBitsWithoutImplicit) (finite : field ≠ -1#_) {exponent : Int}
    (biased : exponent + spec.exponentBias + spec.mantissaBitsWithoutImplicit = field.toNat)
    (positive : 0 < (1#1 ++ mantissa).toNat) :
    pack spec (.finite sign (1#1 ++ mantissa).toNat exponent positive) =
      packComponents spec sign field mantissa := by
  have significand : (1#1 ++ mantissa).toNat =
      2 ^ spec.mantissaBitsWithoutImplicit + mantissa.toNat := by
    rw [BitVec.toNat_append, ← Nat.shiftLeft_add_eq_or_of_lt mantissa.isLt, Nat.shiftLeft_eq]
    exact congrArg (· + mantissa.toNat) (Nat.one_mul _)
  have small := mantissa.isLt
  have length : (1#1 ++ mantissa).toNat.log2 = spec.mantissaBitsWithoutImplicit := by
    rw [Nat.log2_eq_iff (Nat.ne_of_gt positive), significand, Nat.pow_succ]
    omega
  have below : field.toNat + 1 < 2 ^ spec.exponentBits := by
    have width := field.isLt
    have last : field.toNat ≠ 2 ^ spec.exponentBits - 1 := by
      intro greatest
      refine finite (BitVec.eq_of_toNat_eq ?_)
      rw [greatest, BitVec.neg_one_eq_allOnes, BitVec.toNat_allOnes]
    omega
  have truncated : BitVec.ofNat spec.mantissaBitsWithoutImplicit (1#1 ++ mantissa).toNat =
      mantissa := by
    refine BitVec.eq_of_toNat_eq ?_
    rw [BitVec.toNat_ofNat, significand, Nat.add_mod_left, Nat.mod_eq_of_lt small]
  have bits : spec.mantissaBits = 1 + spec.mantissaBitsWithoutImplicit := rfl
  unfold pack
  dsimp only
  rw [biased, length, truncated, Int.toNat_natCast, if_neg (by omega), if_pos (by omega),
    BitVec.ofNat_toNat, BitVec.setWidth_eq]

/-- What bits stand for is finite unless their exponent is the greatest. -/
theorem isFinite_unpack_iff {bits : BitVec spec.numBits} :
    (unpack spec bits).isFinite = true ↔ unpackExponent bits ≠ -1#_ := by
  unfold unpack
  dsimp only
  by_cases greatest : unpackExponent bits = -1#_
  · rw [if_pos greatest]
    refine iff_of_false ?_ (not_not_intro greatest)
    by_cases zero : unpackMantissa bits = 0#_
    · rw [if_pos zero]
      nofun
    · rw [if_neg zero]
      nofun
  · rw [if_neg greatest]
    refine iff_of_true ?_ greatest
    by_cases least : unpackExponent bits = 0#_
    · rw [if_pos least]
      by_cases zero : unpackMantissa bits = 0#_
      · rw [dif_pos zero]
        rfl
      · rw [dif_neg zero]
        rfl
    · rw [if_neg least]
      rfl

/-- One string of bits stands for what is no number. -/
theorem eq_packedNaN {bits : BitVec spec.numBits} (valid : spec.Valid bits)
    (nan : (unpack spec bits).isNaN = true) : bits = packedNaN spec := by
  have greatest : unpackExponent bits = -1#_ := by
    refine Decidable.byContradiction fun finite => ?_
    have real := isFinite_unpack_iff.2 finite
    cases unpacked : unpack spec bits with
    | notANumber => rw [unpacked] at real; cases real
    | infinity | zero | finite => rw [unpacked] at nan; cases nan
  refine valid.eq_packedNaN greatest fun zero => ?_
  unfold unpack at nan
  dsimp only at nan
  rw [if_pos greatest, if_pos zero] at nan
  cases nan

/-- Bits of a number, or the bits that stand for all that are none, come back when they are
unpacked and packed. -/
theorem pack_unpack (wide : 2 ≤ spec.exponentBits) {bits : BitVec spec.numBits}
    (valid : spec.Valid bits) : pack spec (unpack spec bits) = bits := by
  have parts := packComponents_unpack bits
  unfold unpack
  dsimp only
  by_cases greatest : unpackExponent bits = -1#_
  · rw [if_pos greatest]
    by_cases zero : unpackMantissa bits = 0#_
    · rw [if_pos zero]
      rw [greatest, zero] at parts
      exact parts
    · rw [if_neg zero]
      exact (valid.eq_packedNaN greatest zero).symm
  · rw [if_neg greatest]
    by_cases least : unpackExponent bits = 0#_
    · rw [if_pos least]
      by_cases zero : unpackMantissa bits = 0#_
      · rw [dif_pos zero]
        rw [least, zero] at parts
        exact parts
      · rw [dif_neg zero]
        rw [least] at parts ⊢
        refine (pack_subnormal wide _ _ ?_ _).trans parts
        rw [BitVec.toNat_zero]
        omega
    · rw [if_neg least]
      refine (pack_normal _ _ _ greatest ?_ _).trans parts
      omega

theorem toNat_unpackExponent (bits : BitVec spec.numBits) :
    (unpackExponent bits).toNat =
      bits.toNat / 2 ^ spec.mantissaBitsWithoutImplicit % 2 ^ spec.exponentBits := by
  have wide := spec.he
  have width : spec.mantissaBitsWithoutImplicit + spec.exponentBits - 1 -
      spec.mantissaBitsWithoutImplicit + 1 = spec.exponentBits := by omega
  unfold unpackExponent
  rw [BitVec.toNat_cast, BitVec.extractLsb_toNat, Nat.shiftRight_eq_div_pow, width]

theorem toNat_unpackMantissa (bits : BitVec spec.numBits) :
    (unpackMantissa bits).toNat = bits.toNat % 2 ^ spec.mantissaBitsWithoutImplicit := by
  have wide := spec.hm
  have width : spec.mantissaBitsWithoutImplicit - 1 - 0 + 1 =
      spec.mantissaBitsWithoutImplicit := by omega
  unfold unpackMantissa
  rw [BitVec.toNat_cast, BitVec.extractLsb_toNat, Nat.shiftRight_zero, width]

/-- Bits whose magnitude is at most infinity are those of a number. -/
theorem valid_of_le {bits : BitVec spec.numBits}
    (inRange : bits.toNat % (2 ^ spec.mantissaBitsWithoutImplicit * 2 ^ spec.exponentBits) ≤
      (2 ^ spec.exponentBits - 1) * 2 ^ spec.mantissaBitsWithoutImplicit) : spec.Valid bits := by
  refine ⟨fun greatest nonzero => absurd (BitVec.eq_of_toNat_eq ?_) nonzero⟩
  have field := toNat_unpackExponent bits
  rw [greatest, BitVec.neg_one_eq_allOnes, BitVec.toNat_allOnes] at field
  rw [Nat.mod_mul, ← field, Nat.mul_comm] at inRange
  rw [toNat_unpackMantissa, BitVec.toNat_zero]
  omega

end

/-! ## Bits of 32 -/

theorem toBits_injective {x y : Float32} (same : x.toBits = y.toBits) : x = y := by
  obtain ⟨bits, valid⟩ := x
  obtain ⟨bits', valid'⟩ := y
  cases same
  rfl

/-- All that are no numbers are the same. -/
theorem eq_of_isNaN {x y : Float32} (nanX : x.isNaN = true) (nanY : y.isNaN = true) : x = y := by
  have packedX := eq_packedNaN x.toModel.valid nanX
  have packedY := eq_packedNaN y.toModel.valid nanY
  exact toBits_injective (UInt32.toBitVec_inj.1 (packedX.trans packedY.symm))

/-- A number is told by its sign and its magnitude. -/
theorem eq_of_magnitude {x y : Float32} (sign : singleNegative x = singleNegative y)
    (magnitude : singleMagnitude x = singleMagnitude y) : x = y := by
  refine toBits_injective (UInt32.toNat_inj.1 ?_)
  have signBit : Format.binary32.signBit = 2 ^ 31 := by decide
  have widthX := x.toBits.toNat_lt
  have widthY := y.toBits.toNat_lt
  rw [singleNegative, singleNegative, signBit, decide_eq_decide] at sign
  rw [singleMagnitude, singleMagnitude, signBit] at magnitude
  omega

/-- The bits of a number with a sign and a magnitude. -/
theorem toNat_toBits_single (negative : Bool) {magnitude : Nat}
    (inRange : magnitude ≤ Format.binary32.infinity) :
    (single negative magnitude).toBits.toNat =
      magnitude + if negative then Format.binary32.signBit else 0 := by
  have infinity : Format.binary32.infinity = 255 * 2 ^ 23 := by decide
  have sign : (if negative then Format.binary32.signBit else 0) = 0 ∨
      (if negative then Format.binary32.signBit else 0) = 2 ^ 31 := by
    cases negative <;> decide
  unfold single
  generalize (if negative then Format.binary32.signBit else 0) = first at *
  have value : (UInt32.ofNat (magnitude + first)).toNat = magnitude + first :=
    Nat.mod_eq_of_lt (by omega : magnitude + first < 2 ^ 32)
  have valid : Float.Model.Format.binary32.Valid (UInt32.ofNat (magnitude + first)).toBitVec := by
    refine valid_of_le ?_
    change (UInt32.ofNat (magnitude + first)).toNat % (2 ^ 23 * 2 ^ 8) ≤ (2 ^ 8 - 1) * 2 ^ 23
    omega
  have same := UInt32.toBitVec_inj.1 (pack_unpack (by decide) valid)
  exact (congrArg UInt32.toNat same).trans value

theorem singleMagnitude_single (negative : Bool) {magnitude : Nat}
    (inRange : magnitude ≤ Format.binary32.infinity) :
    singleMagnitude (single negative magnitude) = magnitude := by
  have below : Format.binary32.infinity < Format.binary32.signBit := by decide
  rw [singleMagnitude, toNat_toBits_single negative inRange]
  cases negative
  · exact Nat.mod_eq_of_lt (Nat.lt_of_le_of_lt inRange below)
  · rw [if_pos rfl, Nat.add_mod_right]
    exact Nat.mod_eq_of_lt (Nat.lt_of_le_of_lt inRange below)

theorem singleNegative_single (negative : Bool) {magnitude : Nat}
    (inRange : magnitude ≤ Format.binary32.infinity) :
    singleNegative (single negative magnitude) = negative := by
  have below : Format.binary32.infinity < Format.binary32.signBit := by decide
  rw [singleNegative, toNat_toBits_single negative inRange]
  cases negative
  · exact decide_eq_false (Nat.not_le.2 (Nat.lt_of_le_of_lt inRange below))
  · exact decide_eq_true (Nat.le_add_left _ _)

/-! ## Bits of 64 -/

/-- The bits of a positive number with a magnitude. -/
theorem toNat_toBits_double {magnitude : Nat} (inRange : magnitude ≤ Format.binary64.infinity) :
    (double false magnitude).toBits.toNat = magnitude := by
  have infinity : Format.binary64.infinity = 2047 * 2 ^ 52 := by decide
  have value : (UInt64.ofNat magnitude).toNat = magnitude :=
    Nat.mod_eq_of_lt (by omega : magnitude < 2 ^ 64)
  have valid : Float.Model.Format.binary64.Valid (UInt64.ofNat magnitude).toBitVec := by
    refine valid_of_le ?_
    change (UInt64.ofNat magnitude).toNat % (2 ^ 52 * 2 ^ 11) ≤ (2 ^ 11 - 1) * 2 ^ 52
    omega
  have same := UInt64.toBitVec_inj.1 (pack_unpack (by decide) valid)
  exact (congrArg UInt64.toNat same).trans value

theorem doubleMagnitude_double {magnitude : Nat} (inRange : magnitude ≤ Format.binary64.infinity) :
    doubleMagnitude (double false magnitude) = magnitude := by
  have below : Format.binary64.infinity < Format.binary64.signBit := by decide
  rw [doubleMagnitude, toNat_toBits_double inRange]
  exact Nat.mod_eq_of_lt (Nat.lt_of_le_of_lt inRange below)

theorem doubleNegative_double {magnitude : Nat} (inRange : magnitude ≤ Format.binary64.infinity) :
    doubleNegative (double false magnitude) = false := by
  have below : Format.binary64.infinity < Format.binary64.signBit := by decide
  rw [doubleNegative, toNat_toBits_double inRange]
  exact decide_eq_false (Nat.not_le.2 (Nat.lt_of_le_of_lt inRange below))

end Folio.Number
