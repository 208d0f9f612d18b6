import Folio.Number.Binary

/-!
# The order of numbers

Numbers of a layout are compared as numbers in a floating point format are: something that is not a
number is not below anything, not above it and not equal to it. Without it one of the three always
holds (`Number.lt_or_beq_or_lt`), so a number that is not below a bound and not above it is the
bound, up to the sign of zero.
-/

namespace Folio.Number

open Float.Model (UnpackedFloat)

/-! ## The order of the model -/

theorem compare_swap (x y : UnpackedFloat) : y.compare x = (x.compare y).map Ordering.swap := by
  cases x with
  | notANumber => cases y <;> rfl
  | infinity sign =>
    cases y with
    | infinity sign' => cases sign <;> cases sign' <;> rfl
    | _ => cases sign <;> rfl
  | zero sign =>
    cases y with
    | infinity sign' => cases sign' <;> rfl
    | finite sign' => cases sign' <;> rfl
    | _ => rfl
  | finite sign mantissa exponent positive =>
    cases y with
    | finite sign' mantissa' exponent' positive' =>
      have magnitudes : (compare exponent' exponent).then (compare mantissa' mantissa) =
          ((compare exponent exponent').then (compare mantissa mantissa')).swap := by
        rw [Ordering.swap_then, ← Std.OrientedOrd.eq_swap, ← Std.OrientedOrd.eq_swap]
      cases sign <;> cases sign'
      · exact congrArg (some ·.swap) magnitudes
      · rfl
      · rfl
      · exact congrArg some magnitudes
    | infinity sign' => cases sign <;> cases sign' <;> rfl
    | _ => cases sign <;> rfl

/-- Only what is not a number cannot be compared. -/
theorem isSome_compare (x y : UnpackedFloat) :
    (x.compare y).isSome = (!x.isNaN && !y.isNaN) := by
  cases x with
  | notANumber => cases y <;> rfl
  | infinity sign => cases y <;> cases sign <;> rfl
  | zero sign =>
    cases y with
    | infinity sign' => cases sign' <;> rfl
    | finite sign' => cases sign' <;> rfl
    | _ => rfl
  | finite sign =>
    cases y with
    | infinity sign' => cases sign <;> cases sign' <;> rfl
    | finite sign' => cases sign <;> cases sign' <;> rfl
    | _ => cases sign <;> rfl

theorem isNaN_add_model {x : UnpackedFloat} (unordered : x.isNaN = true)
    (format : Float.Model.Format) (y : UnpackedFloat) :
    UnpackedFloat.add format x y = .notANumber := by
  cases x with
  | notANumber => cases y <;> rfl
  | _ => cases unordered

/-! ## The order of numbers -/

variable {x y : Float32}

theorem lt_iff : x < y ↔ x.toModel.unpack.compare y.toModel.unpack = some .lt := by
  change decide ((x.toModel.unpack.compare y.toModel.unpack == some .lt) = true) = true ↔ _
  rw [decide_eq_true_iff, beq_iff_eq]

theorem beq_iff : (x == y) = true ↔ x.toModel.unpack.compare y.toModel.unpack = some .eq := by
  change (x.toModel.unpack.compare y.toModel.unpack == some .eq) = true ↔ _
  rw [beq_iff_eq]

/-- Of two numbers, either one is below the other or they are equal. -/
theorem lt_or_beq_or_lt (number : x.isNaN = false) (number' : y.isNaN = false) :
    x < y ∨ (x == y) = true ∨ y < x := by
  have compared := isSome_compare x.toModel.unpack y.toModel.unpack
  change _ = (!x.isNaN && !y.isNaN) at compared
  rw [number, number'] at compared
  obtain ⟨order, found⟩ := Option.isSome_iff_exists.1 compared
  rw [lt_iff, beq_iff, lt_iff, compare_swap x.toModel.unpack, found]
  cases order with
  | lt => exact .inl rfl
  | eq => exact .inr (.inl rfl)
  | gt => exact .inr (.inr rfl)

/-- What is below something is not above it. -/
theorem not_lt_of_lt (below : x < y) : ¬ y < x := by
  rw [lt_iff] at below
  rw [lt_iff, compare_swap x.toModel.unpack, below]
  intro turned
  cases turned

theorem not_lt_self (x : Float32) : ¬ x < x :=
  fun below => not_lt_of_lt below below

theorem beq_self (number : x.isNaN = false) : (x == x) = true := by
  obtain below | same | below := lt_or_beq_or_lt number number
  · exact absurd below (not_lt_self x)
  · exact same
  · exact absurd below (not_lt_self x)

theorem isNaN_right_of_lt (below : x < y) : y.isNaN = false := by
  have compared := isSome_compare x.toModel.unpack y.toModel.unpack
  rw [lt_iff] at below
  change _ = (!x.isNaN && !y.isNaN) at compared
  rw [below] at compared
  cases number : y.isNaN with
  | false => rfl
  | true =>
    rw [number, Bool.not_true, Bool.and_false] at compared
    cases compared

/-- A sum is no number if its first part is none. -/
theorem isNaN_of_add (number : (x + y).isNaN = false) : x.isNaN = false := by
  cases unordered : x.isNaN with
  | false => rfl
  | true =>
    have sum : (x + y).isNaN = true := by
      change (Float32.Model.pack (UnpackedFloat.add .binary32 x.toModel.unpack
        y.toModel.unpack)).isNaN = true
      rw [isNaN_add_model unordered]
      decide
    rw [sum] at number
    cases number

end Folio.Number
