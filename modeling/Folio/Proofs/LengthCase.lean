import Mathlib.Data.List.Basic
import Folio.Proofs.Folding
import Folio.Property.Length

/-!
# Lengths in either case

Values are put in lower case before they are compiled, but whether a value is a length does not
depend on it: `Length.parse?_lower`. The letters that can stand in a length are those of a unit,
the mark of an exponent, and the words for what is not finite, and each of these is read in either
case.
-/

namespace Folio

/-! ## Characters in lower case -/

theorem toNat_range_of_isUpper {c : Char} (capital : c.isUpper = true) :
    65 ≤ c.toNat ∧ c.toNat ≤ 90 := by
  simpa [Char.isUpper, UInt32.le_iff_toNat_le] using capital

theorem toNat_toLower_of_isUpper {c : Char} (capital : c.isUpper = true) :
    c.toLower.toNat = c.toNat + 32 := by
  have range := toNat_range_of_isUpper capital
  rw [Char.toLower_eq_of_isUpper capital, Char.toNat_ofNat, if_pos (Or.inl (by omega))]

theorem toNat_range_of_isDigit {c : Char} (digit : c.isDigit = true) :
    48 ≤ c.toNat ∧ c.toNat ≤ 57 :=
  Char.isDigit_iff_toNat.1 digit

/-- Lower case makes no character that is not a letter. -/
theorem toLower_eq_iff {c other : Char} (lower : other.isLower = false)
    (upper : other.isUpper = false) : c.toLower = other ↔ c = other := by
  by_cases capital : c.isUpper
  · have letter : c.toLower.isLower = true := by
      rw [Char.isLower_toLower_eq_isAlpha, Char.isAlpha, capital, Bool.true_or]
    constructor
    · rintro rfl
      rw [letter] at lower
      cases lower
    · rintro rfl
      rw [capital] at upper
      cases upper
  · rw [Char.toLower_eq_of_not_isUpper capital]

theorem toLower_eq_mark_iff (c : Char) :
    (c.toLower = 'e' ∨ c.toLower = 'E') ↔ (c = 'e' ∨ c = 'E') := by
  by_cases capital : c.isUpper
  · have range := toNat_range_of_isUpper capital
    have small : 'e'.toNat = 101 := rfl
    have great : 'E'.toNat = 69 := rfl
    simp only [← Char.toNat_inj, toNat_toLower_of_isUpper capital]
    omega
  · rw [Char.toLower_eq_of_not_isUpper capital]

theorem toLower_of_isDigit {c : Char} (digit : c.isDigit = true) : c.toLower = c := by
  apply Char.toLower_eq_of_not_isUpper
  intro capital
  have letters := toNat_range_of_isUpper capital
  have digits := toNat_range_of_isDigit digit
  omega

theorem isDigit_toLower (c : Char) : c.toLower.isDigit = c.isDigit := by
  by_cases capital : c.isUpper
  · have range := toNat_range_of_isUpper capital
    have code := toNat_toLower_of_isUpper capital
    rw [Bool.eq_iff_iff]
    constructor
    · intro digit
      have digits := toNat_range_of_isDigit digit
      omega
    · intro digit
      have digits := toNat_range_of_isDigit digit
      omega
  · rw [Char.toLower_eq_of_not_isUpper capital]

theorem isDigit_comp_toLower : Char.isDigit ∘ Char.toLower = Char.isDigit :=
  funext isDigit_toLower

theorem map_toLower_of_digits {digits : List Char} (all : ∀ c ∈ digits, c.isDigit = true) :
    digits.map Char.toLower = digits := by
  conv_rhs => rw [← List.map_id digits]
  exact List.map_congr_left fun c member => toLower_of_isDigit (all c member)

theorem map_toLower_takeWhile_isDigit (text : List Char) :
    (text.takeWhile Char.isDigit).map Char.toLower = text.takeWhile Char.isDigit :=
  map_toLower_of_digits fun _ member => List.mem_takeWhile_imp member

theorem takeWhile_isDigit_map_toLower (text : List Char) :
    (text.map Char.toLower).takeWhile Char.isDigit = text.takeWhile Char.isDigit := by
  rw [List.takeWhile_map, isDigit_comp_toLower, map_toLower_takeWhile_isDigit]

theorem dropWhile_isDigit_map_toLower (text : List Char) :
    (text.map Char.toLower).dropWhile Char.isDigit =
      (text.dropWhile Char.isDigit).map Char.toLower := by
  rw [List.dropWhile_map, isDigit_comp_toLower]

/-! ## Numerals -/

namespace Number

theorem takeSign_cons_of_unsigned {c : Char} (notPlus : c ≠ '+') (notMinus : c ≠ '-')
    (rest : List Char) : takeSign (c :: rest) = (false, c :: rest) := by
  unfold takeSign
  split
  · rename_i same
    exact absurd (List.cons.inj same).1 notPlus
  · rename_i same
    exact absurd (List.cons.inj same).1 notMinus
  · rfl

theorem takeSign_map_toLower (text : List Char) :
    takeSign (text.map Char.toLower) = ((takeSign text).1, (takeSign text).2.map Char.toLower) := by
  cases text with
  | nil => rfl
  | cons c rest =>
    by_cases isPlus : c = '+'
    · subst isPlus
      rfl
    · by_cases isMinus : c = '-'
      · subst isMinus
        rfl
      · have notPlus : c.toLower ≠ '+' := mt (toLower_eq_iff rfl rfl).1 isPlus
        have notMinus : c.toLower ≠ '-' := mt (toLower_eq_iff rfl rfl).1 isMinus
        rw [List.map_cons, takeSign_cons_of_unsigned notPlus notMinus,
          takeSign_cons_of_unsigned isPlus isMinus, List.map_cons]

theorem readWord_map_toLower (text : List Char) :
    readWord (text.map Char.toLower) = readWord text := by
  have twice : Char.toLower ∘ Char.toLower = Char.toLower :=
    funext Char.toLower_toLower_eq_toLower
  rw [readWord, readWord, List.map_map, twice]

theorem readExponent_map_toLower (text : List Char) :
    readExponent (text.map Char.toLower) = readExponent text := by
  cases text with
  | nil => rfl
  | cons mark rest =>
    have allDigits : ((takeSign rest).2.map Char.toLower).all Char.isDigit =
        (takeSign rest).2.all Char.isDigit := by
      rw [List.all_map, isDigit_comp_toLower]
    rw [List.map_cons, readExponent, readExponent, takeSign_map_toLower]
    simp only [toLower_eq_mark_iff, allDigits, ne_eq, List.map_eq_nil_iff]
    split
    · split
      · rename_i digits
        rw [map_toLower_of_digits (List.all_eq_true.1 digits.2)]
      · rfl
    · rfl

theorem readDecimal_of_point {text rest : List Char}
    (point : text.dropWhile Char.isDigit = '.' :: rest) :
    readDecimal text =
      if text.takeWhile Char.isDigit ++ rest.takeWhile Char.isDigit = [] then none
      else (readExponent (rest.dropWhile Char.isDigit)).map fun exponent =>
        ⟨digitsValue 0 (text.takeWhile Char.isDigit ++ rest.takeWhile Char.isDigit),
          exponent - (rest.takeWhile Char.isDigit).length⟩ := by
  rw [readDecimal, point]
  rfl

theorem readDecimal_of_pointless {text : List Char}
    (pointless : ∀ rest, text.dropWhile Char.isDigit ≠ '.' :: rest) :
    readDecimal text =
      if text.takeWhile Char.isDigit = [] then none
      else (readExponent (text.dropWhile Char.isDigit)).map fun exponent =>
        ⟨digitsValue 0 (text.takeWhile Char.isDigit), exponent⟩ := by
  unfold readDecimal
  split
  rename_i fraction behind parts
  split at parts
  · rename_i rest point
    exact absurd point (pointless rest)
  · cases parts
    simp only [List.append_nil, List.length_nil, Int.natCast_zero, Int.sub_zero]

theorem readDecimal_map_toLower (text : List Char) :
    readDecimal (text.map Char.toLower) = readDecimal text := by
  by_cases pointed : ∃ rest, text.dropWhile Char.isDigit = '.' :: rest
  · obtain ⟨rest, point⟩ := pointed
    have pointLower : (text.map Char.toLower).dropWhile Char.isDigit =
        '.' :: rest.map Char.toLower := by
      rw [dropWhile_isDigit_map_toLower, point]
      rfl
    rw [readDecimal_of_point point, readDecimal_of_point pointLower,
      takeWhile_isDigit_map_toLower, takeWhile_isDigit_map_toLower, dropWhile_isDigit_map_toLower,
      readExponent_map_toLower]
  · have pointless : ∀ rest, text.dropWhile Char.isDigit ≠ '.' :: rest :=
      fun rest point => pointed ⟨rest, point⟩
    have pointlessLower : ∀ rest,
        (text.map Char.toLower).dropWhile Char.isDigit ≠ '.' :: rest := by
      intro rest point
      rw [dropWhile_isDigit_map_toLower, List.map_eq_cons_iff] at point
      obtain ⟨c, others, split, lower, -⟩ := point
      rw [toLower_eq_iff rfl rfl] at lower
      rw [lower] at split
      exact pointless others split
    rw [readDecimal_of_pointless pointless, readDecimal_of_pointless pointlessLower,
      takeWhile_isDigit_map_toLower, dropWhile_isDigit_map_toLower, readExponent_map_toLower]

theorem readSingle_map_toLower (text : List Char) :
    readSingle (text.map Char.toLower) = readSingle text := by
  rw [readSingle, readSingle, takeSign_map_toLower]
  dsimp only
  rw [readWord_map_toLower, readDecimal_map_toLower]

end Number

/-! ## Lengths -/

theorem trimBlanks_map_toLower (text : List Char) :
    Text.trimBlanks (text.map Char.toLower) = (Text.trimBlanks text).map Char.toLower := by
  have same : Text.isBlank ∘ Char.toLower = Text.isBlank := funext Text.isBlank_toLower
  rw [Text.trimBlanks, List.dropWhile_map, same, Text.dropEndWhile_map_toLower, Text.trimBlanks]

theorem takePercent_map_toLower (text : List Char) :
    takePercent (text.map Char.toLower) =
      ((takePercent text).1.map Char.toLower, (takePercent text).2) := by
  have percent : (text.map Char.toLower).getLast? = some '%' ↔ text.getLast? = some '%' := by
    rw [List.getLast?_map, Option.map_eq_some_iff]
    constructor
    · rintro ⟨c, last, same⟩
      rwa [(toLower_eq_iff rfl rfl).1 same] at last
    · intro last
      exact ⟨'%', last, rfl⟩
  unfold takePercent
  by_cases last : text.getLast? = some '%'
  · rw [if_pos last, if_pos (percent.2 last), List.map_dropLast]
  · rw [if_neg last, if_neg (mt percent.1 last)]

theorem withoutUnit_map_toLower (text : List Char) :
    withoutUnit (text.map Char.toLower) = (withoutUnit text).map Char.toLower := by
  have same : isUnitLetter ∘ Char.toLower = isUnitLetter :=
    funext Char.isAlpha_toLower_eq_isAlpha
  rw [withoutUnit, Text.dropEndWhile, ← List.map_reverse, List.dropWhile_map, same,
    ← List.map_reverse, trimBlanks_map_toLower, withoutUnit, Text.dropEndWhile]

/-- A text is the same length in lower case. -/
theorem Length.parse?_lower (text : String) : parse? (Text.lower text) = parse? text := by
  rw [parse?, parse?, Text.lower, String.toList_ofList, trimBlanks_map_toLower,
    takePercent_map_toLower]
  dsimp only
  rw [withoutUnit_map_toLower, Number.readSingle_map_toLower]

end Folio
