import Mathlib.Data.List.DropRight
import Mathlib.Data.List.Induction
import Folio.Proofs.JsonText
import Folio.Proofs.ShortestDigits

/-!
# Single precision in JSON texts

A 32-bit number is written with its shortest digits, in plain form or with an exponent. The number
is the nearest to this decimal (`isNearest_writtenDecimal`). Whichever layout it gets, the text is
that of a numeral worth the decimal (`isWorth_digits`) and short enough to be read to its last
digit, so that it is read as the decimal computed in 64 bits (`exists_isReadAs_single`). Rounding
this to 32 bits gives the number that the text comes back as, `reread`.
-/

namespace Folio

-- A power of a number is the built-in one, whatever other powers are in scope.
attribute [local instance (high)] instPowNat

namespace Json

/-! ## Decimal digits -/

theorem areDigits_toDigits (n : Nat) : AreDigits (Nat.toDigits 10 n) :=
  ⟨Nat.toDigits_ne_nil, fun _ member =>
    Nat.isDigit_of_mem_toDigits (by decide) (by decide) member⟩

/-- The digits of a number do not begin with a zero. -/
theorem head?_toDigits {n : Nat} (positive : 0 < n) : (Nat.toDigits 10 n).head? ≠ some '0' := by
  induction n using Nat.strongRecOn with
  | ind n ih =>
    rcases Nat.lt_or_ge n 10 with small | great
    · rw [Nat.toDigits_of_lt_base small]
      have nonzero : ∀ d < 10, 0 < d → [d.digitChar].head? ≠ some '0' := by decide
      exact nonzero n small positive
    · have front := ih (n / 10) (Nat.div_lt_self positive (by decide))
        (Nat.div_pos great (by decide))
      rw [Nat.toDigits_of_base_le (by decide) great]
      cases digits : Nat.toDigits 10 (n / 10) with
      | nil => exact absurd digits Nat.toDigits_ne_nil
      | cons d others =>
        rw [digits] at front
        exact front

end Json

namespace Number

open Json (AreDigits)

/-! ## Values of digits -/

theorem digitsValue_append (start : Nat) (digits others : List Char) :
    digitsValue start (digits ++ others) = digitsValue (digitsValue start digits) others :=
  List.foldl_append

theorem digitsValue_zeros (start n : Nat) :
    digitsValue start (List.replicate n '0') = start * 10 ^ n := by
  induction n generalizing start with
  | zero => exact (Nat.mul_one start).symm
  | succ n ih =>
    have first : digitsValue start (List.replicate (n + 1) '0') =
        digitsValue (10 * start) (List.replicate n '0') := rfl
    rw [first, ih, Nat.pow_succ]
    ring

theorem digitsValue_lt {digits : List Char} (areDigits : ∀ c ∈ digits, c.isDigit = true) :
    digitsValue 0 digits < 10 ^ digits.length := by
  induction digits using List.reverseRecOn with
  | nil => decide
  | append_singleton digits d ih =>
    have front := ih fun c member => areDigits c (List.mem_append_left _ member)
    have digit : d.isDigit = true := areDigits d (by simp)
    have small : d.toNat - '0'.toNat ≤ 9 := by
      have ends := Char.isDigit_iff_toNat.1 digit
      have zero : '0'.toNat = 48 := rfl
      have nine : '9'.toNat = 57 := rfl
      omega
    have last : digitsValue 0 (digits ++ [d]) =
        10 * digitsValue 0 digits + (d.toNat - '0'.toNat) := digitsValue_append 0 digits [d]
    rw [last, List.length_append, List.length_singleton, Nat.pow_succ]
    omega

/-- What is left of the digits of a positive number without the zeros at its end. -/
theorem withoutTrailingZeros_spec {n : Nat} (positive : 0 < n) :
    AreDigits (withoutTrailingZeros n).1 ∧ (withoutTrailingZeros n).1.head? ≠ some '0' ∧
      (withoutTrailingZeros n).2 + (withoutTrailingZeros n).1.length = digitCount n ∧
      digitsValue 0 (withoutTrailingZeros n).1 * 10 ^ (withoutTrailingZeros n).2 = n := by
  obtain ⟨someDigit, allDigits⟩ := Json.areDigits_toDigits n
  have noZero := Json.head?_toDigits positive
  have value := Json.digitsValue_toDigits n
  unfold withoutTrailingZeros digitCount
  dsimp only
  generalize Nat.toDigits 10 n = digits at *
  change AreDigits (digits.rdropWhile (· == '0')) ∧ (digits.rdropWhile (· == '0')).head? ≠ _ ∧
    digits.length - (digits.rdropWhile (· == '0')).length +
      (digits.rdropWhile (· == '0')).length = _ ∧
    digitsValue 0 (digits.rdropWhile (· == '0')) *
      10 ^ (digits.length - (digits.rdropWhile (· == '0')).length) = n
  have split : digits.rdropWhile (· == '0') ++ digits.rtakeWhile (· == '0') = digits :=
    List.rdropWhile_append_rtakeWhile
  have zeros : ∀ c ∈ digits.rtakeWhile (· == '0'), c = '0' := by
    intro c member
    exact eq_of_beq (List.mem_rtakeWhile_imp (p := (· == '0')) member)
  have nonempty : digits.rdropWhile (· == '0') ≠ [] := by
    intro kept
    have allZeros := List.rdropWhile_eq_nil_iff.1 kept
    cases digits with
    | nil => exact someDigit rfl
    | cons d others =>
      exact noZero (congrArg some (eq_of_beq (allZeros d List.mem_cons_self)))
  generalize digits.rdropWhile (· == '0') = kept at *
  generalize digits.rtakeWhile (· == '0') = dropped at *
  have length : digits.length - kept.length = dropped.length := by
    rw [← split, List.length_append]
    omega
  refine ⟨⟨nonempty, fun c member => allDigits c ?_⟩, ?_, ?_, ?_⟩
  · rw [← split]
    exact List.mem_append_left _ member
  · rwa [← split, List.head?_append_of_ne_nil _ nonempty] at noZero
  · rw [← split, List.length_append]
    omega
  · rw [length, ← digitsValue_zeros, ← List.eq_replicate_of_mem zeros, ← digitsValue_append, split,
      value]

theorem isDigit_of_mem_zeros {c : Char} {n : Nat} (member : c ∈ List.replicate n '0') :
    c.isDigit = true := by
  rw [(List.mem_replicate.1 member).2]
  decide

section

variable {digits : List Char} (areDigits : AreDigits digits)
include areDigits

theorem areDigits_zeros_append (n : Nat) : AreDigits (List.replicate n '0' ++ digits) := by
  obtain ⟨someDigit, allDigits⟩ := areDigits
  refine ⟨List.append_ne_nil_of_right_ne_nil _ someDigit, ?_⟩
  intro c member
  exact (List.mem_append.1 member).elim isDigit_of_mem_zeros (allDigits c)

theorem areDigits_append_zeros (n : Nat) : AreDigits (digits ++ List.replicate n '0') := by
  obtain ⟨someDigit, allDigits⟩ := areDigits
  refine ⟨List.append_ne_nil_of_left_ne_nil someDigit _, ?_⟩
  intro c member
  exact (List.mem_append.1 member).elim (allDigits c) isDigit_of_mem_zeros

theorem areDigits_take_succ (n : Nat) : AreDigits (digits.take (n + 1)) := by
  obtain ⟨someDigit, allDigits⟩ := areDigits
  refine ⟨?_, fun c member => allDigits c (List.mem_of_mem_take member)⟩
  rw [Ne, List.take_eq_nil_iff]
  rintro (none | none)
  · cases none
  · exact someDigit none

theorem areDigits_drop {n : Nat} (more : ¬ digits.length ≤ n) : AreDigits (digits.drop n) := by
  refine ⟨?_, fun c member => areDigits.2 c (List.mem_of_mem_drop member)⟩
  rwa [Ne, List.drop_eq_nil_iff]

end

/-! ## Layouts -/

/-- Whether a text without a sign is that of a short numeral worth a number. -/
def IsWorth (text : List Char) (negative : Bool) (value : ℚ) : Prop :=
  ∃ x : Json.Numeral, x.negative = negative ∧ Json.NumeralText text x ∧ x.IsShort ∧
    x.decimal.toRat = value

theorem isWorth_of_point {whole fraction : List Char} (wholeDigits : AreDigits whole)
    (noZero : whole = ['0'] ∨ whole.head? ≠ some '0') (fractionDigits : AreDigits fraction)
    (few : whole.length + fraction.length ≤ 19) (negative : Bool) :
    IsWorth (whole ++ '.' :: fraction) negative
      (Decimal.mk (digitsValue 0 (whole ++ fraction)) (-fraction.length)).toRat := by
  have all : ∀ c ∈ whole ++ fraction, c.isDigit = true := by
    intro c member
    exact (List.mem_append.1 member).elim (wholeDigits.2 c) (fractionDigits.2 c)
  have kept : digitsValue 0 (whole ++ fraction) ≤ Json.maxSignificand := by
    have small := digitsValue_lt all
    have most : 10 ^ (whole ++ fraction).length ≤ 10 ^ 19 := by
      rw [List.length_append]
      exact Nat.pow_le_pow_right (by decide) few
    have bound : 10 ^ 19 ≤ Json.maxSignificand := by decide
    omega
  have exponent : (Json.Numeral.mk negative whole (some fraction) none).decimal.exponent =
      -fraction.length := zero_sub _
  refine ⟨⟨negative, whole, some fraction, none⟩, rfl,
    ⟨⟨wholeDigits, noZero, ?_, ?_⟩, [], .none, ?_⟩, ⟨.inl nofun, kept, nofun, ?_, ?_⟩, ?_⟩
  · rintro _ ⟨⟩
    exact fractionDigits
  · rintro _ ⟨⟩
  · rw [Json.fractionText, List.append_nil]
  · rw [exponent]
    omega
  · rw [exponent]
    omega
  · rw [Decimal.toRat, exponent]
    rfl

theorem isWorth_of_mark {d : Char} (digit : d.isDigit = true) {fraction : Option (List Char)}
    (fractionDigits : ∀ digits ∈ fraction, AreDigits digits)
    (few : (fraction.getD []).length ≤ 18) {first : Int} (low : -290 ≤ first) (high : first ≤ 38)
    (negative : Bool) :
    IsWorth (d :: (Json.fractionText fraction ++ exponentMark first)) negative
      (Decimal.mk (digitsValue 0 (d :: fraction.getD []))
        (first - (fraction.getD []).length)).toRat := by
  have noZero : [d] = ['0'] ∨ [d].head? ≠ some '0' := by
    by_cases zero : d = '0'
    · exact .inl (by rw [zero])
    · exact .inr fun head => zero (Option.some.inj head)
  have spelt : Json.ExponentText (exponentMark first)
      (some (decide (first < 0), Nat.toDigits 10 first.natAbs)) := by
    rw [exponentMark]
    split
    · rename_i down
      rw [decide_eq_true down]
      exact .some (.inl rfl) .minus
    · rename_i up
      rw [decide_eq_false up]
      exact .some (.inl rfl) .plus
  have all : ∀ c ∈ d :: fraction.getD [], c.isDigit = true := by
    rw [List.forall_mem_cons]
    refine ⟨digit, ?_⟩
    cases fraction with
    | none => nofun
    | some digits => exact (fractionDigits digits rfl).2
  have kept : digitsValue 0 (d :: fraction.getD []) ≤ Json.maxSignificand := by
    have small := digitsValue_lt all
    have most : 10 ^ (d :: fraction.getD []).length ≤ 10 ^ 19 := by
      rw [List.length_cons]
      exact Nat.pow_le_pow_right (by decide) (by omega)
    have bound : 10 ^ 19 ≤ Json.maxSignificand := by decide
    omega
  have size := Json.digitsValue_toDigits first.natAbs
  have exponent : (Json.Numeral.mk negative [d] fraction
      (some (decide (first < 0), Nat.toDigits 10 first.natAbs))).decimal.exponent =
      first - (fraction.getD []).length := by
    unfold Json.Numeral.decimal
    dsimp only
    rw [size]
    simp only [decide_eq_true_eq]
    omega
  refine ⟨⟨negative, [d], fraction, some (decide (first < 0), Nat.toDigits 10 first.natAbs)⟩, rfl,
    ⟨⟨⟨List.cons_ne_nil _ _, ?_⟩, noZero, fractionDigits, ?_⟩, exponentMark first, spelt, rfl⟩,
    ⟨.inr nofun, kept, ?_, ?_, ?_⟩, ?_⟩
  · intro c member
    rwa [List.mem_singleton.1 member]
  · rintro _ ⟨⟩
    exact Json.areDigits_toDigits _
  · rintro _ ⟨⟩
    rw [size]
    omega
  · rw [exponent]
    omega
  · rw [exponent]
    omega
  · rw [Decimal.toRat, exponent]
    rfl

section

variable {digits : List Char} {first : Int} (areDigits : AreDigits digits)
  (noZero : digits = ['0'] ∧ first = 0 ∨ digits.head? ≠ some '0') (few : digits.length ≤ 13)
include areDigits noZero

/-- All digits stand before the point, and zeros between them and the point. -/
theorem isWorth_of_padded (short : first ≤ 12) (positive : 0 ≤ first)
    (fits : digits.length ≤ first.toNat + 1) (negative : Bool) :
    IsWorth (digits ++ List.replicate (first.toNat + 1 - digits.length) '0' ++ ['.', '0'])
      negative (Decimal.mk (digitsValue 0 digits) (first - digits.length + 1)).toRat := by
  have lead : digits ++ List.replicate (first.toNat + 1 - digits.length) '0' = ['0'] ∨
      (digits ++ List.replicate (first.toNat + 1 - digits.length) '0').head? ≠ some '0' := by
    obtain ⟨rfl, rfl⟩ | nonzero := noZero
    · exact .inl rfl
    · refine .inr ?_
      rwa [List.head?_append_of_ne_nil _ areDigits.1]
  have worth := isWorth_of_point (areDigits_append_zeros areDigits _) lead
    (by decide : AreDigits ['0']) (by
      rw [List.length_append, List.length_replicate, List.length_singleton]
      omega) negative
  have shifted : digitsValue 0
      (digits ++ List.replicate (first.toNat + 1 - digits.length) '0' ++ ['0']) =
        digitsValue 0 digits * 10 ^ (first.toNat + 1 - digits.length) * 10 := by
    rw [digitsValue_append, digitsValue_append, digitsValue_zeros]
    exact digitsValue_zeros _ 1
  have exponent : (first - digits.length + 1 : ℤ) = (first.toNat + 1 - digits.length : Nat) := by
    omega
  have value : (Decimal.mk (digitsValue 0
      (digits ++ List.replicate (first.toNat + 1 - digits.length) '0' ++ ['0']))
      (-(['0'].length : Nat))).toRat =
        (Decimal.mk (digitsValue 0 digits) (first - digits.length + 1)).toRat := by
    rw [Decimal.toRat, Decimal.toRat, shifted, exponent, Nat.cast_mul, Nat.cast_mul, natCast_pow,
      List.length_singleton, Nat.cast_one, zpow_neg_one, Nat.cast_ofNat,
      mul_inv_cancel_right₀ (by norm_num)]
  rwa [value] at worth

include few

/-- The point stands between the digits. -/
theorem isWorth_of_divided (positive : 0 ≤ first) (more : ¬ digits.length ≤ first.toNat + 1)
    (negative : Bool) :
    IsWorth (digits.take (first.toNat + 1) ++ '.' :: digits.drop (first.toNat + 1)) negative
      (Decimal.mk (digitsValue 0 digits) (first - digits.length + 1)).toRat := by
  have lead : digits.take (first.toNat + 1) = ['0'] ∨
      (digits.take (first.toNat + 1)).head? ≠ some '0' := by
    obtain ⟨rfl, rfl⟩ | nonzero := noZero
    · exact .inl rfl
    · refine .inr ?_
      rwa [List.head?_take, if_neg (Nat.succ_ne_zero _)]
  have length : (digits.take (first.toNat + 1)).length +
      (digits.drop (first.toNat + 1)).length = digits.length := by
    rw [← List.length_append, List.take_append_drop]
  have worth := isWorth_of_point (areDigits_take_succ areDigits _) lead
    (areDigits_drop areDigits more) (by omega) negative
  have exponent : -((digits.drop (first.toNat + 1)).length : Int) = first - digits.length + 1 := by
    rw [List.length_drop]
    omega
  rwa [List.take_append_drop, exponent] at worth

/-- Whatever its layout, a text of few digits is worth what they are. -/
theorem isWorth_digits (low : -64 ≤ first - digits.length + 1) (high : first ≤ 38)
    (negative : Bool) :
    IsWorth (Layout.jsonSingle.digits digits first) negative
      (Decimal.mk (digitsValue 0 digits) (first - digits.length + 1)).toRat := by
  unfold Layout.digits
  split
  · rename_i plain
    have ends : (-6 ≤ first && first ≤ 12) = true := plain
    simp only [Bool.and_eq_true, decide_eq_true_eq] at ends
    split
    · rename_i small
      have worth := isWorth_of_point (by decide : AreDigits ['0']) (.inl rfl)
        (areDigits_zeros_append areDigits (-first - 1).toNat) (by
          rw [List.length_append, List.length_replicate, List.length_singleton]
          omega) negative
      have value : digitsValue 0 (['0'] ++ (List.replicate (-first - 1).toNat '0' ++ digits)) =
          digitsValue 0 digits := by
        have zero : digitsValue 0 ['0'] = 0 := rfl
        rw [digitsValue_append, digitsValue_append, digitsValue_zeros, zero, Nat.zero_mul]
      have exponent : -((List.replicate (-first - 1).toNat '0' ++ digits).length : Int) =
          first - digits.length + 1 := by
        rw [List.length_append, List.length_replicate]
        omega
      rwa [value, exponent] at worth
    · dsimp only
      split
      · rename_i fits
        exact isWorth_of_padded areDigits noZero ends.2 (by omega) fits negative
      · rename_i more
        exact isWorth_of_divided areDigits noZero few (by omega) more negative
  · obtain ⟨someDigit, allDigits⟩ := areDigits
    cases digits with
    | nil => exact absurd rfl someDigit
    | cons d others =>
      have digit : d.isDigit = true := allDigits d List.mem_cons_self
      have exponent : (first - (d :: others).length + 1 : ℤ) = first - others.length := by
        rw [List.length_cons]
        omega
      rw [exponent] at low ⊢
      rw [List.length_cons] at few
      cases others with
      | nil =>
        have nothing : ∀ digits ∈ (none : Option (List Char)), AreDigits digits := nofun
        exact isWorth_of_mark digit nothing (by decide) (by omega) high negative
      | cons d' others =>
        have behind : ∀ digits ∈ some (d' :: others), AreDigits digits := by
          rintro _ ⟨⟩
          exact ⟨List.cons_ne_nil _ _, fun c member => allDigits c (List.mem_cons_of_mem d member)⟩
        exact isWorth_of_mark digit behind (by rw [Option.getD_some]; omega) (by omega) high negative

end

/-! ## Finite numbers -/

/-- The magnitude of a finite number is below that of infinity. -/
theorem singleMagnitude_lt {x : Float32} (finite : x.isFinite = true) :
    singleMagnitude x < Format.binary32.infinity := by
  have field := @toNat_unpackExponent .binary32 x.toBits.toBitVec
  have notGreatest := (@isFinite_unpack_iff .binary32 x.toBits.toBitVec).1 finite
  have below : (@Float.Model.UnpackedFloat.unpackExponent .binary32 x.toBits.toBitVec).toNat ≠
      255 := fun greatest => notGreatest (BitVec.eq_of_toNat_eq greatest)
  have signBit : Format.binary32.signBit = 2 ^ 31 := by decide
  have infinity : Format.binary32.infinity = 255 * 2 ^ 23 := by decide
  change _ = x.toBits.toNat / 2 ^ 23 % 2 ^ 8 at field
  rw [singleMagnitude, signBit, infinity]
  omega

/-- The decimal that is written for a finite number, without its sign. -/
def writtenDecimal (x : Float32) : Decimal :=
  if singleMagnitude x = 0 then ⟨0, 0⟩
  else Format.binary32.shortest Layout.jsonSingle.tie (singleMagnitude x)

/-- A finite number is the nearest to the decimal that is written for it. -/
theorem isNearest_writtenDecimal {x : Float32} (finite : x.isFinite = true) :
    Format.binary32.IsNearest (writtenDecimal x).toRat (singleMagnitude x) := by
  unfold writtenDecimal
  split
  · rename_i zero
    have none : (Decimal.mk 0 0).toRat = 0 := zero_mul _
    rw [zero, none]
    exact Format.isNearest_zero
  · rename_i nonzero
    exact isNearest_shortest (by decide) _ (Nat.pos_of_ne_zero nonzero) (singleMagnitude_lt finite)

/-- The text of a finite number is a sign and a text worth the decimal. -/
theorem exists_isWorth_single {x : Float32} (finite : x.isFinite = true) :
    ∃ text, Layout.jsonSingle.single x = (if singleNegative x then ['-'] else []) ++ text ∧
      IsWorth text (singleNegative x) (writtenDecimal x).toRat := by
  unfold Layout.single Layout.finite writtenDecimal
  dsimp only
  split
  · have zero := @isWorth_digits ['0'] 0 (by decide) (.inl ⟨rfl, rfl⟩) (by decide) (by decide)
      (by decide) (singleNegative x)
    exact ⟨_, rfl, zero⟩
  · rename_i nonzero
    obtain ⟨positive, small, low, high⟩ := shortest_binary32 (Nat.pos_of_ne_zero nonzero)
      (singleMagnitude_lt finite) Layout.jsonSingle.tie
    generalize Format.binary32.shortest Layout.jsonSingle.tie (singleMagnitude x) = decimal at *
    obtain ⟨areDigits, noZero, length, value⟩ := withoutTrailingZeros_spec positive
    have few : digitCount decimal.digits ≤ 13 :=
      (Nat.length_toDigits_le_iff (by decide) (by decide)).2 small
    have worth := @isWorth_digits _ (decimal.exponent + (withoutTrailingZeros decimal.digits).2 +
      (withoutTrailingZeros decimal.digits).1.length - 1) areDigits (.inr noZero) (by omega)
      (by omega) (by omega) (singleNegative x)
    have same : (Decimal.mk (digitsValue 0 (withoutTrailingZeros decimal.digits).1)
        (decimal.exponent + (withoutTrailingZeros decimal.digits).2 +
          (withoutTrailingZeros decimal.digits).1.length - 1 -
          (withoutTrailingZeros decimal.digits).1.length + 1)).toRat = decimal.toRat := by
      have exponent : decimal.exponent + (withoutTrailingZeros decimal.digits).2 +
          (withoutTrailingZeros decimal.digits).1.length - 1 -
          (withoutTrailingZeros decimal.digits).1.length + 1 =
            (withoutTrailingZeros decimal.digits).2 + decimal.exponent := by omega
      unfold Decimal.toRat
      dsimp only
      rw [exponent, zpow_add₀ (by norm_num), ← mul_assoc, zpow_natCast]
      congr 1
      exact_mod_cast value
    rw [same] at worth
    exact ⟨_, rfl, worth⟩

end Number

namespace Json

open Folio.Number (Layout singleNegative writtenDecimal)

/-- The digits of a natural number are a text of it. -/
theorem numberText_natural {n : Nat} (small : n ≤ maxSignificand) :
    NumberText (Nat.toDigits 10 n) (.natural n) := by
  have noZero : Nat.toDigits 10 n = ['0'] ∨ (Nat.toDigits 10 n).head? ≠ some '0' := by
    rcases Nat.eq_zero_or_pos n with rfl | positive
    · exact .inl (Nat.toDigits_zero 10)
    · exact .inr (head?_toDigits positive)
  let x : Numeral := ⟨false, Nat.toDigits 10 n, none, none⟩
  have formed : x.WellFormed := ⟨areDigits_toDigits n, noZero, by rintro _ ⟨⟩, by rintro _ ⟨⟩⟩
  refine ⟨Nat.toDigits 10 n, x, ⟨formed, [], .none, ?_⟩, value_of_toDigits small, rfl⟩
  rw [fractionText, List.append_nil, List.append_nil]

/-- Whether a 64-bit number is what a text is read as: the text is a sign and a numeral worth a
decimal, and the number has that sign and is the numeral's decimal computed in 64 bits. -/
inductive IsReadAs (text : List Char) (negative : Bool) (decimal : ℚ) (y : Float) : Prop where
  | mk {digits : List Char} {numeral : Numeral} {z : Float} (spelt : NumeralText digits numeral)
      (sign : numeral.negative = negative)
      (split : text = (if negative then ['-'] else []) ++ digits)
      (worth : numeral.decimal.toRat = decimal) (computed : IsComputed numeral.decimal z)
      (result : y = if negative then -z else z)

/-- The text of a finite number is that of a 64-bit number, computed from the decimal that is
written. -/
theorem exists_isReadAs_single {x : Float32} (finite : x.isFinite = true) :
    ∃ y : Float, NumberText (Layout.jsonSingle.single x) (.real y) ∧
      IsReadAs (Layout.jsonSingle.single x) (singleNegative x) (writtenDecimal x).toRat y := by
  obtain ⟨text, split, numeral, negative, spelt, short, worth⟩ :=
    Folio.Number.exists_isWorth_single finite
  obtain ⟨z, value, computed⟩ := exists_value short
  rw [negative] at value
  refine ⟨_, ⟨text, numeral, spelt, value, ?_⟩, .mk spelt negative split worth computed rfl⟩
  rw [split, negative]

/-- The number that a text is read as, if it is the text of a number. -/
def numberOfText? (text : List Char) : Option Number :=
  match outcome (value 0 text) with
  | some (.number n, []) => some n
  | _ => none

theorem numberOfText?_of_numberText {text : List Char} {n : Number}
    (numeral : NumberText text n) : numberOfText? text = some n := by
  obtain ⟨opens, read⟩ := readsText_number numeral none
  have alone : skipSpace text = text ++ [] := by
    have same := skipSpace_of_opens opens []
    rwa [List.append_nil] at same ⊢
  have all := read text [] (by rintro _ ⟨⟩) alone
  rw [numberOfText?, value, all]
  rfl

end Json

/-- A number that was written in JSON and read back; a number that cannot be written stays as it
is. -/
def reread (x : Float32) : Float32 :=
  match Json.numberOfText? (Number.Layout.jsonSingle.single x) with
  | some n => n.single
  | none => x

/-- A finite number comes back rounded twice: its decimal to 64 bits, and that to 32. -/
theorem exists_reread {x : Float32} (finite : x.isFinite = true) :
    ∃ y : Float, Json.NumberText (Number.Layout.jsonSingle.single x) (.real y) ∧
      Json.numberOfText? (Number.Layout.jsonSingle.single x) = some (.real y) ∧
      Json.IsReadAs (Number.Layout.jsonSingle.single x) (Number.singleNegative x)
        (Number.writtenDecimal x).toRat y ∧
      reread x = Number.singleOfDouble y := by
  obtain ⟨y, numeral, decimal⟩ := Json.exists_isReadAs_single finite
  have read := Json.numberOfText?_of_numberText numeral
  refine ⟨y, numeral, read, decimal, ?_⟩
  rw [reread, read]
  rfl

end Folio
