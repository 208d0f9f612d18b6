import Folio.Proofs.Overflow
import Folio.Proofs.ReadingSteps
import Folio.Proofs.Rounding

/-!
# Numerals in JSON texts

A numeral is read by its parts: the digits before the point, those behind it, and the exponent,
which may be marked by either case of the letter and leave out a plus sign (`NumeralText`). Whatever
its spelling, it is read back (`outcome_number`). What the numeral is worth need not exist, for it
may be out of range; a short one with a point or with a small exponent is in range and no integer.
-/

namespace Folio

-- A power of a number is the built-in one, whatever other powers are in scope.
attribute [local instance (high)] instPowNat

namespace Json

open Folio.Number (Decimal IsNearestDouble digitsValue isInf_mul_doubleOfNat
  isNearestDouble_doubleOfNat)

/-! ## The text of a numeral -/

/-- The text of the digits behind the point. -/
def fractionText : Option (List Char) → List Char
  | none => []
  | some digits => '.' :: digits

/-- Whether a text is the sign of an exponent that goes down or up. -/
inductive SignText : List Char → Bool → Prop
  | minus : SignText ['-'] true
  | plus : SignText ['+'] false
  | plain : SignText [] false

/-- Whether a text is an exponent, or none. -/
inductive ExponentText : List Char → Option (Bool × List Char) → Prop
  | none : ExponentText [] none
  | some {mark : Char} {sign digits : List Char} {down : Bool} (isMark : mark = 'e' ∨ mark = 'E')
      (signed : SignText sign down) : ExponentText (mark :: (sign ++ digits)) (some (down, digits))

/-- Whether characters are digits, and at least one. -/
def AreDigits (text : List Char) : Prop :=
  text ≠ [] ∧ ∀ c ∈ text, c.isDigit = true

instance (text : List Char) : Decidable (AreDigits text) :=
  @instDecidableAnd _ _ _ (List.decidableBAll _ text)

/-- Whether all parts of a numeral are digits, the first with no zero too many. -/
structure Numeral.WellFormed (x : Numeral) : Prop where
  whole : AreDigits x.whole
  noZero : x.whole = ['0'] ∨ x.whole.head? ≠ some '0'
  fraction : ∀ digits ∈ x.fraction, AreDigits digits
  exponent : ∀ part ∈ x.exponent, AreDigits part.2

/-- Whether a text is a numeral without its sign. -/
structure NumeralText (text : List Char) (x : Numeral) : Prop where
  formed : x.WellFormed
  split : ∃ exponent, ExponentText exponent x.exponent ∧
    text = x.whole ++ (fractionText x.fraction ++ exponent)

/-- Whether a text does not go on with a number that comes before it. -/
def EndsNumber (text : List Char) : Prop :=
  ∀ c ∈ text.head?, c.isDigit = false ∧ c ≠ '.' ∧ c ≠ 'e' ∧ c ≠ 'E'

theorem takeDigits_append {digits rest : List Char} (areDigits : ∀ c ∈ digits, c.isDigit = true)
    (ends : ∀ c ∈ rest.head?, c.isDigit = false) :
    takeDigits (digits ++ rest) = (digits, rest) := by
  rw [takeDigits, List.takeWhile_append_of_pos areDigits, List.dropWhile_append_of_pos areDigits]
  cases rest with
  | nil => rw [List.takeWhile_nil, List.dropWhile_nil, List.append_nil]
  | cons c rest =>
    have noDigit : ¬ c.isDigit = true := by
      rw [ends c rfl]
      decide
    rw [List.takeWhile_cons_of_neg noDigit, List.dropWhile_cons_of_neg noDigit, List.append_nil]

theorem wholePart_append {whole rest : List Char} (areDigits : AreDigits whole)
    (noZero : whole = ['0'] ∨ whole.head? ≠ some '0')
    (ends : ∀ c ∈ rest.head?, c.isDigit = false) :
    ∃ h, wholePart (whole ++ rest) = .ok (whole, ⟨rest, h⟩) := by
  obtain ⟨someDigit, allDigits⟩ := areDigits
  cases whole with
  | nil => exact absurd rfl someDigit
  | cons d digits =>
    have shorter : rest.length < (d :: digits ++ rest).length := by
      rw [List.length_append, List.length_cons]
      omega
    refine ⟨shorter, ?_⟩
    by_cases zero : d = '0'
    · subst zero
      obtain alone | other := noZero
      · cases alone
        cases rest with
        | nil => rfl
        | cons c rest =>
          have noDigit : c.isDigit = false := ends c rfl
          simp only [List.cons_append, List.nil_append, wholePart, noDigit]
          rfl
      · exact absurd rfl other
    · have digit : d.isDigit = true := allDigits d List.mem_cons_self
      have others : takeDigits (digits ++ rest) = (digits, rest) :=
        takeDigits_append (fun c member => allDigits c (List.mem_cons_of_mem d member)) ends
      simp only [List.cons_append, wholePart, if_neg zero, digit, if_true, others]

theorem fractionPart_append {fraction : Option (List Char)} {rest : List Char}
    (areDigits : ∀ digits ∈ fraction, AreDigits digits)
    (ends : ∀ c ∈ rest.head?, c.isDigit = false ∧ c ≠ '.') :
    ∃ h, fractionPart (fractionText fraction ++ rest) = .ok (fraction, ⟨rest, h⟩) := by
  cases fraction with
  | none =>
    refine ⟨Nat.le_refl _, ?_⟩
    cases rest with
    | nil => rfl
    | cons c rest =>
      have noPoint : ∀ more, c :: rest = '.' :: more → False := by
        intro more point
        cases point
        exact (ends '.' rfl).2 rfl
      exact fractionPart.eq_3 (c :: rest) noPoint
  | some digits =>
    obtain ⟨someDigit, allDigits⟩ := areDigits digits rfl
    have taken : takeDigits (digits ++ rest) = (digits, rest) :=
      takeDigits_append allDigits fun c member => (ends c member).1
    have shorter : rest.length ≤ (fractionText (some digits) ++ rest).length := by
      rw [List.length_append]
      omega
    refine ⟨shorter, ?_⟩
    simp only [fractionText, List.cons_append, fractionPart, taken, if_neg someDigit]

theorem exponentSign_append {sign : List Char} {down : Bool} (signed : SignText sign down)
    {rest : List Char} (ends : ∀ c ∈ rest.head?, c ≠ '+' ∧ c ≠ '-') :
    ∃ h, exponentSign (sign ++ rest) = (down, ⟨rest, h⟩) := by
  cases signed with
  | minus => exact ⟨Nat.le_succ _, rfl⟩
  | plus => exact ⟨Nat.le_succ _, rfl⟩
  | plain =>
    refine ⟨Nat.le_refl _, exponentSign.eq_3 rest ?_ ?_⟩
    · rintro others rfl
      exact (ends '+' rfl).1 rfl
    · rintro others rfl
      exact (ends '-' rfl).2 rfl

theorem exponentPart_append {text : List Char} {exponent : Option (Bool × List Char)}
    (spelt : ExponentText text exponent) (areDigits : ∀ part ∈ exponent, AreDigits part.2)
    {rest : List Char} (ends : EndsNumber rest) :
    ∃ h, exponentPart (text ++ rest) = .ok (exponent, ⟨rest, h⟩) := by
  cases spelt with
  | none =>
    refine ⟨Nat.le_refl _, ?_⟩
    cases rest with
    | nil => rfl
    | cons c rest =>
      obtain ⟨-, -, noMark, noMark'⟩ := ends c rfl
      simp only [List.nil_append, exponentPart, noMark, noMark', or_self, if_false]
  | @some mark sign digits down isMark signed =>
    obtain ⟨someDigit, allDigits⟩ := areDigits (down, digits) rfl
    have taken : takeDigits (digits ++ rest) = (digits, rest) :=
      takeDigits_append allDigits fun c member => (ends c member).1
    have noSign : ∀ c ∈ (digits ++ rest).head?, c ≠ '+' ∧ c ≠ '-' := by
      intro c member
      cases digits with
      | nil => exact absurd rfl someDigit
      | cons d digits =>
        cases member
        have digit := allDigits c List.mem_cons_self
        constructor <;> rintro rfl <;> cases digit
    have signRead : ∃ h, exponentSign (sign ++ digits ++ rest) = (down, ⟨digits ++ rest, h⟩) := by
      rw [List.append_assoc]
      exact exponentSign_append signed noSign
    obtain ⟨h, signRead⟩ := signRead
    have shorter : rest.length ≤ (mark :: (sign ++ digits) ++ rest).length := by
      rw [List.length_append]
      omega
    refine ⟨shorter, ?_⟩
    simp only [List.cons_append, exponentPart, isMark, if_true, signRead, taken, someDigit,
      if_false]

/-- A numeral is read back from its text. -/
theorem outcome_number {text : List Char} {x : Numeral} (spelt : NumeralText text x)
    {rest : List Char} (ends : EndsNumber rest) :
    outcome (number x.negative (text ++ rest)) = x.value.toOption.map fun n => (n, rest) := by
  obtain ⟨formed, exponentText, exponentSpelt, rfl⟩ := spelt
  have noMark : ∀ c ∈ (exponentText ++ rest).head?, c.isDigit = false ∧ c ≠ '.' := by
    intro c member
    generalize x.exponent = exponent at exponentSpelt
    cases exponentSpelt with
    | none => exact ⟨(ends c member).1, (ends c member).2.1⟩
    | some isMark _ =>
      cases member
      obtain rfl | rfl := isMark <;> decide
  have noDigit : ∀ c ∈ (fractionText x.fraction ++ (exponentText ++ rest)).head?,
      c.isDigit = false := by
    intro c member
    cases fraction : x.fraction with
    | none =>
      rw [fraction] at member
      exact (noMark c member).1
    | some digits =>
      rw [fraction] at member
      cases member
      decide
  obtain ⟨h₁, whole⟩ := wholePart_append formed.whole formed.noZero noDigit
  obtain ⟨h₂, fraction⟩ := fractionPart_append formed.fraction noMark
  obtain ⟨h₃, exponent⟩ := exponentPart_append exponentSpelt formed.exponent ends
  rw [List.append_assoc, List.append_assoc, number, whole]
  simp only [bind, Except.bind, fraction, exponent]
  cases x.value <;> rfl

/-- Whether a text is a number with its sign, and which. -/
def NumberText (text : List Char) (n : Number) : Prop :=
  ∃ digits x, NumeralText digits x ∧ x.value = .ok n ∧
    text = (if x.negative then ['-'] else []) ++ digits

/-! ## Digits that are kept -/

theorem le_digitsValue (start : Nat) (digits : List Char) :
    start ≤ digitsValue start digits := by
  induction digits generalizing start with
  | nil => exact Nat.le_refl _
  | cons d digits ih =>
    refine Nat.le_trans ?_ (ih (10 * start + (d.toNat - '0'.toNat)))
    omega

/-- Digits whose value can be kept are all kept. -/
theorem addWhole_of_le {significand : Nat} {digits : List Char}
    (small : digitsValue significand digits ≤ maxSignificand) :
    addWhole significand digits = (digitsValue significand digits, 0) := by
  induction digits generalizing significand with
  | nil => rfl
  | cons d digits ih =>
    have whole : digitsValue significand (d :: digits) =
        digitsValue (digitsValue significand [d]) digits := rfl
    rw [whole] at small ⊢
    rw [addWhole, if_pos (Nat.le_trans (le_digitsValue _ digits) small), ih small]

/-- Digits whose value can be kept are all kept, also behind the point. -/
theorem addFraction_of_le {significand : Nat} {exponent : Int} {digits : List Char}
    (small : digitsValue significand digits ≤ maxSignificand) :
    addFraction significand exponent digits =
      (digitsValue significand digits, exponent - digits.length) := by
  induction digits generalizing significand exponent with
  | nil => rw [List.length_nil, Nat.cast_zero, sub_zero]; rfl
  | cons d digits ih =>
    have whole : digitsValue significand (d :: digits) =
        digitsValue (digitsValue significand [d]) digits := rfl
    rw [whole] at small ⊢
    rw [addFraction, if_pos (Nat.le_trans (le_digitsValue _ digits) small), ih small,
      List.length_cons, Nat.cast_succ]
    congr 1
    ring

theorem exponentSize_of_le {size : Nat} {digits : List Char}
    (small : digitsValue size digits ≤ 2 ^ (31 : Nat) - 1) :
    exponentSize size digits = .ok (digitsValue size digits) := by
  induction digits generalizing size with
  | nil => rfl
  | cons d digits ih =>
    have whole : digitsValue size (d :: digits) =
        digitsValue (digitsValue size [d]) digits := rfl
    rw [whole] at small ⊢
    rw [exponentSize, if_pos (Nat.le_trans (le_digitsValue _ digits) small), ih small]

theorem digitsValue_toDigits (n : Nat) : digitsValue 0 (Nat.toDigits 10 n) = n := by
  have value := @Nat.ofDigitChars_ten_toDigits n
  rwa [Nat.ofDigitChars_eq_foldl] at value

/-- An integer that can be kept is read as it is. -/
theorem value_of_toDigits {n : Nat} (small : n ≤ maxSignificand) :
    (Numeral.mk false (Nat.toDigits 10 n) none none).value = .ok (.natural n) := by
  have whole := @addWhole_of_le 0 (Nat.toDigits 10 n)
  rw [digitsValue_toDigits] at whole
  rw [Numeral.value, whole small]
  rfl

/-! ## Numerals that are not cut -/

/-- The decimal of a numeral, without its sign. -/
def Numeral.decimal (x : Numeral) : Decimal where
  digits := digitsValue 0 (x.whole ++ x.fraction.getD [])
  exponent :=
    (match x.exponent with
      | none => 0
      | some (down, digits) =>
        if down then -(digitsValue 0 digits : Int) else digitsValue 0 digits) -
      (x.fraction.getD []).length

/-- Whether a numeral is no integer, with few enough digits to be read to the last of them. -/
structure Numeral.IsShort (x : Numeral) : Prop where
  real : x.fraction ≠ none ∨ x.exponent ≠ none
  digits : x.decimal.digits ≤ maxSignificand
  exponent : ∀ part ∈ x.exponent, digitsValue 0 part.2 ≤ 2 ^ (31 : Nat) - 1
  low : -308 ≤ x.decimal.exponent
  high : x.decimal.exponent ≤ 38

/-- Whether a 64-bit number is a decimal computed in 64 bits: its digits and a power of ten, each
rounded, are multiplied or divided. -/
inductive IsComputed (decimal : Decimal) (y : Float) : Prop where
  | multiplied {digits power : Float} {n : Nat} (up : decimal.exponent = n)
      (isDigits : IsNearestDouble decimal.digits digits)
      (isPower : IsNearestDouble (10 ^ n : Nat) power) (product : y = digits * power)
  | divided {digits power : Float} {n : Nat} (some : 0 < n) (down : decimal.exponent = -n)
      (isDigits : IsNearestDouble decimal.digits digits)
      (isPower : IsNearestDouble (10 ^ n : Nat) power) (quotient : y = digits / power)

/-- A decimal with few digits is scaled without ado. -/
theorem exists_scaled? {decimal : Decimal} (small : decimal.digits ≤ maxSignificand)
    (low : -308 ≤ decimal.exponent) (high : decimal.exponent ≤ 38) :
    ∃ y, scaled? decimal.digits decimal.exponent = some y ∧ IsComputed decimal y := by
  unfold scaled?
  dsimp only
  split
  · rename_i down
    refine ⟨_, rfl, ?_⟩
    rw [scaleDown, if_pos (by omega)]
    exact .divided (by omega) (by omega) (isNearestDouble_doubleOfNat _)
      (isNearestDouble_doubleOfNat (10 ^ (-decimal.exponent).toNat)) rfl
  · rename_i up
    have power : 10 ^ decimal.exponent.toNat < 2 ^ 128 := by
      have most : 10 ^ decimal.exponent.toNat ≤ 10 ^ 38 :=
        Nat.pow_le_pow_right (by decide) (by omega)
      exact Nat.lt_of_le_of_lt most (by decide)
    have digits : decimal.digits < 2 ^ 128 := Nat.lt_of_le_of_lt small (by decide)
    have finite := isInf_mul_doubleOfNat digits power
    rw [if_pos (by omega), powerOfTen, finite]
    exact ⟨_, rfl, .multiplied (by omega) (isNearestDouble_doubleOfNat _)
      (isNearestDouble_doubleOfNat (10 ^ decimal.exponent.toNat)) rfl⟩

/-- A short numeral is read as its decimal. -/
theorem exists_value {x : Numeral} (short : x.IsShort) :
    ∃ y, x.value = .ok (.real (if x.negative then -y else y)) ∧ IsComputed x.decimal y := by
  obtain ⟨y, scaled, computed⟩ := exists_scaled? short.digits short.low short.high
  refine ⟨y, ?_, computed⟩
  obtain ⟨real, digits, size, -, -⟩ := short
  obtain ⟨negative, whole, fraction, exponent⟩ := x
  unfold Numeral.decimal at digits scaled
  dsimp only at *
  have append : digitsValue 0 (whole ++ fraction.getD []) =
      digitsValue (digitsValue 0 whole) (fraction.getD []) := List.foldl_append
  rw [append] at digits scaled
  have first := addWhole_of_le (Nat.le_trans (le_digitsValue _ _) digits)
  have second := @addFraction_of_le _ (0 : Nat) _ digits
  unfold Numeral.value
  dsimp only
  rw [first]
  cases exponent with
  | none =>
    cases fraction with
    | none => exact absurd rfl (real.resolve_right fun some => some rfl)
    | some behind =>
      dsimp only at second ⊢
      rw [second]
      dsimp only at scaled ⊢
      rw [Nat.cast_zero, scaled]
  | some part =>
    obtain ⟨down, digits⟩ := part
    have sized := exponentSize_of_le (size _ rfl)
    have places : (if down = true then
        ((0 : Nat) : Int) - (fraction.getD []).length - (digitsValue 0 digits : Nat)
        else ((0 : Nat) : Int) - (fraction.getD []).length + (digitsValue 0 digits : Nat)) =
        (if down = true then -(digitsValue 0 digits : Int) else digitsValue 0 digits) -
          (fraction.getD []).length := by
      split <;> omega
    -- With an exponent the two cases of the fraction come to the same.
    cases fraction
    all_goals
      dsimp only at second places ⊢
      rw [second]
      dsimp only
      rw [sized]
      dsimp only at scaled ⊢
      rw [places, scaled]

end Json

end Folio
