import Folio.Proofs.LengthCase
import Folio.Proofs.SingleText
import Folio.Proofs.Trimming

/-!
# Lengths with a unit

Between the blanks around it a length is a number, perhaps blanks, perhaps a unit, and perhaps a
percent sign, and only the number and the percent sign count (`Length.parse?_withUnit`). Letters
belong to some numbers too, so this holds for a number that ends in a digit or a point: letters
behind it can only be those of a unit, and what is left when they are gone is the number.
-/

namespace Folio

/-! ## Characters -/

/-- Whether a number that a unit may follow can end in a character: in a digit or a point. -/
def endsNumeral (c : Char) : Bool :=
  c.isDigit || c == '.'

theorem toNat_range_of_isUnitLetter {c : Char} (letter : isUnitLetter c = true) :
    65 ≤ c.toNat ∧ c.toNat ≤ 90 ∨ 97 ≤ c.toNat ∧ c.toNat ≤ 122 := by
  simpa [isUnitLetter, Char.isAlpha, Char.isUpper, Char.isLower, UInt32.le_iff_toNat_le]
    using letter

theorem isBlank_of_isUnitLetter {c : Char} (letter : isUnitLetter c = true) :
    Text.isBlank c = false := by
  have range := toNat_range_of_isUnitLetter letter
  exact Text.isBlank_eq_false (by omega) (by omega)

theorem toNat_range_of_endsNumeral {c : Char} (ends : endsNumeral c = true) :
    46 ≤ c.toNat ∧ c.toNat ≤ 57 := by
  rw [endsNumeral, Bool.or_eq_true, beq_iff_eq] at ends
  rcases ends with digit | rfl
  · have range := toNat_range_of_isDigit digit
    omega
  · decide

theorem isBlank_of_endsNumeral {c : Char} (ends : endsNumeral c = true) :
    Text.isBlank c = false := by
  have range := toNat_range_of_endsNumeral ends
  exact Text.isBlank_eq_false (by omega) (by omega)

theorem isUnitLetter_of_endsNumeral {c : Char} (ends : endsNumeral c = true) :
    isUnitLetter c = false := by
  rw [Bool.eq_false_iff]
  intro letter
  have letters := toNat_range_of_isUnitLetter letter
  have range := toNat_range_of_endsNumeral ends
  omega

theorem isUnitLetter_of_isBlank {c : Char} (blank : Text.isBlank c = true) :
    isUnitLetter c = false := by
  rw [Bool.eq_false_iff]
  intro letter
  rw [isBlank_of_isUnitLetter letter] at blank
  cases blank

/-! ## The number in front of a unit -/

section

variable {gap unit : List Char} {c : Char}

/-- Letters and then blanks are taken off the end, and the number is left. -/
theorem withoutUnit_append (ends : endsNumeral c = true)
    (blank : ∀ d ∈ gap, Text.isBlank d = true) (letters : ∀ d ∈ unit, isUnitLetter d = true)
    (before : List Char) :
    withoutUnit (before.dropWhile Text.isBlank ++ c :: (gap ++ unit)) =
      before.dropWhile Text.isBlank ++ [c] := by
  have unitless : Text.dropEndWhile isUnitLetter
      (before.dropWhile Text.isBlank ++ c :: (gap ++ unit)) =
        before.dropWhile Text.isBlank ++ c :: gap := by
    rw [← List.cons_append, ← List.append_assoc, Text.dropEndWhile_append_of_all letters]
    rcases List.eq_nil_or_concat gap with rfl | ⟨others, last, rfl⟩
    · exact Text.dropEndWhile_concat (isUnitLetter_of_endsNumeral ends) _
    · have lastBlank := blank last (by simp)
      rw [List.concat_eq_append, ← List.cons_append, ← List.append_assoc]
      exact Text.dropEndWhile_concat (isUnitLetter_of_isBlank lastBlank) _
  have trimmed := Text.trimBlanks_append_cons (List.forall_mem_nil _) blank
    (isBlank_of_endsNumeral ends) (before.dropWhile Text.isBlank) []
  rw [List.nil_append, List.append_assoc, List.cons_append, List.nil_append,
    List.dropWhile_idempotent, Text.dropEndWhile_concat (isBlank_of_endsNumeral ends)] at trimmed
  rw [withoutUnit, unitless, trimmed]

/-- Trimming keeps the unit, and the blanks in front of it if there is one. -/
theorem trimBlanks_unit {front behind : List Char} (ends : endsNumeral c = true)
    (frontBlank : ∀ d ∈ front, Text.isBlank d = true)
    (behindBlank : ∀ d ∈ behind, Text.isBlank d = true)
    (blank : ∀ d ∈ gap, Text.isBlank d = true) (letters : ∀ d ∈ unit, isUnitLetter d = true)
    (before : List Char) :
    ∃ kept, (∀ d ∈ kept, Text.isBlank d = true) ∧
      Text.trimBlanks (front ++ (before ++ c :: (gap ++ unit)) ++ behind) =
        before.dropWhile Text.isBlank ++ c :: (kept ++ unit) := by
  rw [Text.trimBlanks_append_cons frontBlank behindBlank (isBlank_of_endsNumeral ends)]
  rcases List.eq_nil_or_concat unit with rfl | ⟨others, last, rfl⟩
  · refine ⟨[], nofun, ?_⟩
    rw [List.append_nil, ← List.singleton_append, ← List.append_assoc,
      Text.dropEndWhile_append_of_all blank]
    exact Text.dropEndWhile_concat (isBlank_of_endsNumeral ends) _
  · refine ⟨gap, blank, ?_⟩
    have lastLetter := letters last (by simp)
    rw [List.concat_eq_append, ← List.append_assoc, ← List.cons_append, ← List.append_assoc]
    exact Text.dropEndWhile_concat (isBlank_of_isUnitLetter lastLetter) _

/-- Neither a number nor a unit ends in a percent sign. -/
theorem takePercent_unit (ends : endsNumeral c = true)
    (blank : ∀ d ∈ gap, Text.isBlank d = true) (letters : ∀ d ∈ unit, isUnitLetter d = true)
    (before : List Char) :
    takePercent (before ++ c :: (gap ++ unit)) = (before ++ c :: (gap ++ unit), false) := by
  rw [takePercent, if_neg]
  intro percent
  have member : '%' ∈ c :: (gap ++ unit) := by
    rw [List.getLast?_append_cons] at percent
    exact List.mem_of_getLast? percent
  rcases List.mem_cons.1 member with rfl | member
  · exact absurd ends (by decide)
  rcases List.mem_append.1 member with inGap | inUnit
  · exact absurd (blank _ inGap) (by decide)
  · exact absurd (letters _ inUnit) (by decide)

theorem takePercent_concat (text : List Char) : takePercent (text ++ ['%']) = (text, true) := by
  rw [takePercent, if_pos List.getLast?_concat, List.dropLast_concat]

end

namespace Length

/-- A unit: ASCII letters, or nothing at all. -/
def IsUnitText (unit : String) : Prop :=
  ∀ c ∈ unit.toList, c.isAlpha = true

instance (unit : String) : Decidable (IsUnitText unit) :=
  decidable_of_iff (unit.toList.all Char.isAlpha = true) List.all_eq_true

/-- A text that ends in a digit or a point. -/
def EndsInNumeral (number : String) : Prop :=
  ∃ c ∈ number.toList.getLast?, endsNumeral c = true

/-- The length that a numeral stands for, if it is that of a finite number. -/
def ofNumeral? (numeral : List Char) (percent : Bool) : Option Length :=
  ((Number.readSingle numeral).filter Float32.isFinite).map (⟨·, percent⟩)

theorem parse?_eq (text : String) :
    parse? text = ofNumeral? (withoutUnit (takePercent (Text.trimBlanks text.toList)).1)
      (takePercent (Text.trimBlanks text.toList)).2 := by
  rw [parse?, ofNumeral?]
  generalize takePercent (Text.trimBlanks text.toList) = cut
  obtain ⟨body, percent⟩ := cut
  dsimp only
  cases Number.readSingle (withoutUnit body) with
  | none => rfl
  | some value => cases finite : value.isFinite <;> simp [finite]

theorem ofNumeral?_eq_some_iff {numeral : List Char} {percent : Bool} {length : Length} :
    ofNumeral? numeral percent = some length ↔
      Number.readSingle numeral = some length.value ∧ length.value.isFinite = true ∧
        length.percent = percent := by
  obtain ⟨value, marked⟩ := length
  rw [ofNumeral?, Option.map_eq_some_iff]
  simp only [Option.filter_eq_some_iff, mk.injEq]
  constructor
  · rintro ⟨value, ⟨read, finite⟩, rfl, rfl⟩
    exact ⟨read, finite, rfl⟩
  · rintro ⟨read, finite, rfl⟩
    exact ⟨value, ⟨read, finite⟩, rfl, rfl⟩

section

variable {front number gap unit behind : String} (frontBlank : Text.AllBlank front)
  (ends : EndsInNumeral number) (gapBlank : Text.AllBlank gap) (letters : IsUnitText unit)
  (behindBlank : Text.AllBlank behind)

include frontBlank ends gapBlank letters behindBlank

/-- A length with a unit and no percent sign is its number. -/
theorem parse?_append_unit :
    parse? (front ++ number ++ gap ++ unit ++ behind) =
      ofNumeral? (Text.trimBlanks number.toList) false := by
  obtain ⟨c, last, ends⟩ := ends
  obtain ⟨before, split⟩ := List.getLast?_eq_some_iff.1 last
  obtain ⟨kept, keptBlank, trimmed⟩ :=
    trimBlanks_unit ends frontBlank behindBlank gapBlank letters before
  have chars : (front ++ number ++ gap ++ unit ++ behind).toList =
      front.toList ++ (before ++ c :: (gap.toList ++ unit.toList)) ++ behind.toList := by
    simp [split]
  rw [parse?_eq, chars, trimmed, takePercent_unit ends keptBlank letters,
    withoutUnit_append ends keptBlank letters, split,
    Text.trimBlanks_concat (isBlank_of_endsNumeral ends)]

/-- A length with a unit and a percent sign is its number as a percentage. -/
theorem parse?_append_percent :
    parse? (front ++ number ++ gap ++ unit ++ "%" ++ behind) =
      ofNumeral? (Text.trimBlanks number.toList) true := by
  obtain ⟨c, last, ends⟩ := ends
  obtain ⟨before, split⟩ := List.getLast?_eq_some_iff.1 last
  have chars : (front ++ number ++ gap ++ unit ++ "%" ++ behind).toList =
      front.toList ++ (before ++ c :: (gap.toList ++ unit.toList ++ ['%'])) ++ behind.toList := by
    simp [split]
  have trimmed : Text.dropEndWhile Text.isBlank
      (before.dropWhile Text.isBlank ++ c :: (gap.toList ++ unit.toList ++ ['%'])) =
        before.dropWhile Text.isBlank ++ c :: (gap.toList ++ unit.toList) ++ ['%'] := by
    rw [← List.cons_append, ← List.append_assoc]
    exact Text.dropEndWhile_concat (by decide) _
  rw [parse?_eq, chars, Text.trimBlanks_append_cons frontBlank behindBlank
      (isBlank_of_endsNumeral ends), trimmed, takePercent_concat,
    withoutUnit_append ends gapBlank letters, split,
    Text.trimBlanks_concat (isBlank_of_endsNumeral ends)]

end

/-- A unit behind a number, and blanks around the two, make no difference to the length, and a
percent sign behind it makes a percentage of the same number, which is the one that the text of the
number says. Whatever the text, the number of a length is finite. -/
theorem parse?_withUnit :
    (∀ front number gap unit behind : String, Text.AllBlank front → EndsInNumeral number →
      Text.AllBlank gap → IsUnitText unit → Text.AllBlank behind →
        parse? (front ++ number ++ gap ++ unit ++ behind) = parse? number ∧
        parse? (front ++ number ++ gap ++ unit ++ "%" ++ behind) =
          (parse? number).map (fun length => { length with percent := true }) ∧
        ∀ length, parse? number = some length ↔
          Number.readSingle (Text.trimBlanks number.toList) = some length.value ∧
            length.value.isFinite = true ∧ length.percent = false) ∧
      ∀ text length, parse? text = some length → length.value.isFinite = true ∧
        Number.singleMagnitude length.value < Number.Format.binary32.infinity := by
  constructor
  · intro front number gap unit behind frontBlank ends gapBlank letters behindBlank
    have bare : parse? number = ofNumeral? (Text.trimBlanks number.toList) false := by
      have noBlank : Text.AllBlank "" := nofun
      have noUnit : IsUnitText "" := nofun
      have alone := parse?_append_unit noBlank ends noBlank noUnit noBlank
      rwa [String.empty_append, String.append_empty, String.append_empty, String.append_empty]
        at alone
    refine ⟨?_, ?_, fun length => ?_⟩
    · rw [parse?_append_unit frontBlank ends gapBlank letters behindBlank, bare]
    · rw [parse?_append_percent frontBlank ends gapBlank letters behindBlank, bare, ofNumeral?,
        ofNumeral?, Option.map_map]
      rfl
    · rw [bare, ofNumeral?_eq_some_iff]
  · intro text length parsed
    rw [parse?_eq, ofNumeral?_eq_some_iff] at parsed
    obtain ⟨-, finite, -⟩ := parsed
    exact ⟨finite, Number.singleMagnitude_lt finite⟩

/-- A number with an exponent, a no-break space, and a unit. -/
theorem parse?_withUnit_spacedPixels :
    EndsInNumeral "-2.5e1" ∧ Text.AllBlank "\xA0" ∧ IsUnitText "px" ∧
      parse? "\t-2.5e1\xA0px " = some ⟨-25.0, false⟩ ∧
      parse? "\t-2.5e1\xA0px% " = some ⟨-25.0, true⟩ ∧ (-25.0 : Float32).isFinite = true := by
  have front : Text.AllBlank "\t" := by decide +kernel
  have ends : EndsInNumeral "-2.5e1" := ⟨'1', by decide +kernel, by decide⟩
  have gap : Text.AllBlank "\xA0" := by decide +kernel
  have letters : IsUnitText "px" := by decide +kernel
  have behind : Text.AllBlank " " := by decide +kernel
  have number : parse? "-2.5e1" = some ⟨-25.0, false⟩ := by decide +kernel
  obtain ⟨units, finite⟩ := parse?_withUnit
  obtain ⟨unit, percent, -⟩ := units "\t" "-2.5e1" "\xA0" "px" " " front ends gap letters behind
  rw [number] at unit percent
  exact ⟨ends, gap, letters, unit, percent, (finite "-2.5e1" _ number).1⟩

end Length

end Folio
