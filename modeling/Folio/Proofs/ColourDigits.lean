import Folio.Proofs.LengthCase
import Folio.Proofs.Trimming
import Folio.Property.Colour

/-!
# Colours and their digits

A text is read as a colour exactly if its last six characters, the blanks around the text left out,
are the six digits of that colour in either case of the letters, whatever stands in front of them
(`Colour.parse?_decodes`). So there is one colour for six digits and none for anything else.

The digits are ASCII, so each takes one byte, and the six can be cut in pairs at every second byte;
and a pair of them is a number of eight bits, so it can be read as a part of a colour.
-/

namespace Folio

namespace Text

/-! ## Digits in base sixteen -/

/-- A digit in base sixteen, in either case. -/
def IsHexDigit (c : Char) : Prop :=
  c.toLower ∈ "0123456789abcdef".toList

theorem toNat_digitChar : ∀ n < 16,
    (Nat.digitChar n).toNat = if n < 10 then n + 48 else n + 87 := by
  decide

theorem isHexDigit_iff (c : Char) : IsHexDigit c ↔ ∃ n < 16, c.toLower = Nat.digitChar n := by
  have digits : "0123456789abcdef".toList = (List.range 16).map Nat.digitChar := by decide
  rw [IsHexDigit, digits, List.mem_map]
  constructor
  · rintro ⟨n, small, same⟩
    exact ⟨n, List.mem_range.1 small, same.symm⟩
  · rintro ⟨n, small, same⟩
    exact ⟨n, List.mem_range.2 small, same.symm⟩

/-- The value of a digit by its code. -/
theorem hexValue?_eq (c : Char) :
    hexValue? c = if 48 ≤ c.toNat ∧ c.toNat ≤ 57 then some (c.toNat - 48)
      else if 97 ≤ c.toNat ∧ c.toNat ≤ 102 then some (c.toNat - 97 + 10)
      else if 65 ≤ c.toNat ∧ c.toNat ≤ 70 then some (c.toNat - 65 + 10) else none := by
  rfl

theorem hexValue?_eq_some_iff {c : Char} {n : Nat} :
    hexValue? c = some n ↔ n < 16 ∧ c.toLower = Nat.digitChar n := by
  -- A capital comes to the digit 32 codes behind it, and any other character stays where it is.
  have lowered : c.toLower.toNat =
      if 65 ≤ c.toNat ∧ c.toNat ≤ 90 then c.toNat + 32 else c.toNat := by
    have capital : c.isUpper = true ↔ 65 ≤ c.toNat ∧ c.toNat ≤ 90 := by
      simp [Char.isUpper, UInt32.le_iff_toNat_le]
    split
    · rename_i range
      exact toNat_toLower_of_isUpper (capital.2 range)
    · rename_i range
      rw [Char.toLower_eq_of_not_isUpper (mt capital.1 range)]
  have codes : n < 16 → (c.toLower = Nat.digitChar n ↔
      c.toLower.toNat = if n < 10 then n + 48 else n + 87) := by
    intro small
    rw [← Char.toNat_inj, toNat_digitChar n small]
  rw [and_congr_right codes, lowered, hexValue?_eq]
  split_ifs <;> simp only [Option.some_inj, false_iff] <;> omega

/-- The two digits of a number of eight bits. -/
theorem hexPadded_two {n : Nat} (small : n < 256) :
    hexPadded 2 n = [Nat.digitChar (n / 16), Nat.digitChar (n % 16)] := by
  rw [hexPadded, hexDigits, Nat.toDigits_eq_if (by decide)]
  split
  · rename_i single
    rw [Nat.div_eq_of_lt single, Nat.mod_eq_of_lt single]
    rfl
  · rw [Nat.toDigits_of_lt_base (by omega)]
    rfl

theorem isSome_hexValue?_iff (c : Char) : (hexValue? c).isSome = true ↔ IsHexDigit c := by
  rw [isHexDigit_iff, Option.isSome_iff_exists]
  exact exists_congr fun n => hexValue?_eq_some_iff

theorem toNat_range_of_isHexDigit {c : Char} (digit : IsHexDigit c) :
    48 ≤ c.toNat ∧ c.toNat ≤ 102 := by
  rw [← isSome_hexValue?_iff, hexValue?_eq] at digit
  by_contra outside
  rw [if_neg (by omega), if_neg (by omega), if_neg (by omega)] at digit
  cases digit

/-! ## Texts of digits, cut by their bytes -/

/-- What stands in a text between two places, counted in bytes, that are both between two of its
characters. -/
def IsSlice (text : String) (start stop : Nat) (piece : String) : Prop :=
  ∃ before behind, text = before ++ piece ++ behind ∧
    before.utf8ByteSize = start ∧ (before ++ piece).utf8ByteSize = stop

/-- A digit takes one byte. -/
theorem utf8ByteSize_of_isHexDigit {digits : List Char} (all : ∀ c ∈ digits, IsHexDigit c) :
    (String.ofList digits).utf8ByteSize = digits.length := by
  induction digits with
  | nil => rfl
  | cons c rest ih =>
    obtain ⟨digit, others⟩ := List.forall_mem_cons.1 all
    have code : c.toNat ≤ 127 := Nat.le_trans (toNat_range_of_isHexDigit digit).2 (by decide)
    have size : c.utf8Size = 1 := Char.utf8Size_eq_one_iff.2 code
    rw [String.utf8ByteSize_ofList] at ih ⊢
    rw [String.utf8Len_cons, ih others, size, List.length_cons]

theorem isSlice_of_isHexDigit (before piece behind : List Char)
    (all : ∀ c ∈ before ++ piece ++ behind, IsHexDigit c) :
    IsSlice (String.ofList (before ++ piece ++ behind)) before.length
      (before.length + piece.length) (String.ofList piece) := by
  have first : ∀ c ∈ before ++ piece, IsHexDigit c :=
    fun c member => all c (List.mem_append_left behind member)
  refine ⟨String.ofList before, String.ofList behind, ?_, ?_, ?_⟩
  · rw [String.ofList_append, String.ofList_append]
  · exact utf8ByteSize_of_isHexDigit fun c member => first c (List.mem_append_left piece member)
  · rw [← String.ofList_append, utf8ByteSize_of_isHexDigit first, List.length_append]

end Text

namespace Colour

open Text (IsHexDigit)

/-! ## Parts -/

/-- Two characters are a part of a colour exactly if they are its two digits in either case. -/
theorem channel?_eq_some_iff {high low : Char} {part : UInt8} :
    channel? high low = some part ↔
      [high, low].map Char.toLower = Text.hexPadded 2 part.toNat := by
  have bound := part.toNat_lt
  rw [Text.hexPadded_two bound]
  simp only [channel?, Option.bind_eq_bind, Option.bind_eq_some_iff, Option.pure_def,
    Option.some_inj, Text.hexValue?_eq_some_iff, List.map_cons, List.map_nil, List.cons.injEq,
    and_true]
  constructor
  · rintro ⟨h, ⟨smallHigh, isHigh⟩, l, ⟨smallLow, isLow⟩, rfl⟩
    have value : (UInt8.ofNat (16 * h + l)).toNat = 16 * h + l := by
      rw [UInt8.toNat_ofNat']
      omega
    rw [value, isHigh, isLow]
    constructor <;> congr 1 <;> omega
  · rintro ⟨isHigh, isLow⟩
    refine ⟨part.toNat / 16, ⟨by omega, isHigh⟩, part.toNat % 16, ⟨by omega, isLow⟩, ?_⟩
    rw [Nat.div_add_mod, UInt8.ofNat_toNat]

theorem isSome_channel?_iff (high low : Char) :
    (channel? high low).isSome = true ↔ IsHexDigit high ∧ IsHexDigit low := by
  rw [← Text.isSome_hexValue?_iff, ← Text.isSome_hexValue?_iff, channel?]
  cases Text.hexValue? high <;> cases Text.hexValue? low <;> simp

/-- Two digits can be cut out of a text at a place, and are a part of a colour in base sixteen. -/
def ReadsPart (digits : String) (place : Nat) (part : UInt8) : Prop :=
  ∃ piece, Text.IsSlice digits place (place + 2) piece ∧
    Text.hexNumber? piece.toList = some part.toNat

theorem hexNumber?_of_channel? {high low : Char} {part : UInt8}
    (read : channel? high low = some part) : Text.hexNumber? [high, low] = some part.toNat := by
  have bound := part.toNat_lt
  rw [channel?_eq_some_iff, Text.hexPadded_two bound] at read
  obtain ⟨isHigh, rest⟩ := List.cons.inj read
  obtain ⟨isLow, -⟩ := List.cons.inj rest
  have first := Text.hexValue?_eq_some_iff.2 ⟨by omega, isHigh⟩
  have second := Text.hexValue?_eq_some_iff.2 ⟨by omega, isLow⟩
  have value : 16 * (part.toNat / 16) + part.toNat % 16 = part.toNat := by omega
  simp [Text.hexNumber?, List.foldlM, first, second, value]

/-! ## Six digits -/

/-- The six digits of a colour. -/
def digits (colour : Colour) : List Char :=
  [colour.red, colour.green, colour.blue].flatMap fun part => Text.hexPadded 2 part.toNat

theorem length_hexPadded (part : UInt8) : (Text.hexPadded 2 part.toNat).length = 2 := by
  rw [Text.hexPadded_two part.toNat_lt]
  rfl

theorem length_digits (colour : Colour) : colour.digits.length = 6 := by
  simp [digits, length_hexPadded]

/-- The last six characters of a text without the blanks around it, or all if there are fewer. -/
def lastSix (text : String) : List Char :=
  let chars := Text.trimBlanks text.toList
  chars.drop (chars.length - 6)

theorem length_lastSix (text : String) :
    (lastSix text).length = min 6 (Text.trimBlanks text.toList).length := by
  rw [lastSix, List.length_drop]
  omega

/-- The colour that characters are read as. -/
def ofDigits? : List Char → Option Colour
  | [r, r', g, g', b, b'] => do
    return ⟨← channel? r r', ← channel? g g', ← channel? b b'⟩
  | _ => none

theorem parse?_eq_ofDigits? (text : String) : parse? text = ofDigits? (lastSix text) :=
  rfl

theorem ofDigits?_six {r r' g g' b b' : Char} {colour : Colour} :
    ofDigits? [r, r', g, g', b, b'] = some colour ↔ channel? r r' = some colour.red ∧
      channel? g g' = some colour.green ∧ channel? b b' = some colour.blue := by
  obtain ⟨red, green, blue⟩ := colour
  simp only [ofDigits?, Option.bind_eq_bind, Option.bind_eq_some_iff, Option.pure_def,
    Option.some_inj, mk.injEq]
  constructor
  · rintro ⟨_, isRed, _, isGreen, _, isBlue, rfl, rfl, rfl⟩
    exact ⟨isRed, isGreen, isBlue⟩
  · rintro ⟨isRed, isGreen, isBlue⟩
    exact ⟨red, isRed, green, isGreen, blue, isBlue, rfl, rfl, rfl⟩

/-- Characters that are read as a colour are six. -/
theorem exists_six_of_ofDigits? {chars : List Char} (read : (ofDigits? chars).isSome = true) :
    ∃ r r' g g' b b', chars = [r, r', g, g', b, b'] := by
  unfold ofDigits? at read
  split at read
  · exact ⟨_, _, _, _, _, _, rfl⟩
  · cases read

theorem exists_six_of_length {chars : List Char} (six : chars.length = 6) :
    ∃ r r' g g' b b', chars = [r, r', g, g', b, b'] := by
  match chars, six with
  | [r, r', g, g', b, b'], _ => exact ⟨r, r', g, g', b, b', rfl⟩

/-- Characters are read as a colour exactly if they are its six digits in either case. -/
theorem ofDigits?_eq_some_iff {chars : List Char} {colour : Colour} :
    ofDigits? chars = some colour ↔ chars.map Char.toLower = colour.digits := by
  have pairs : ∀ r r' g g' b b', ofDigits? [r, r', g, g', b, b'] = some colour ↔
      [r, r', g, g', b, b'].map Char.toLower = colour.digits := by
    intro r r' g g' b b'
    rw [ofDigits?_six, channel?_eq_some_iff, channel?_eq_some_iff, channel?_eq_some_iff]
    simp only [digits, List.flatMap_cons, List.flatMap_nil, Text.hexPadded_two (UInt8.toNat_lt _),
      List.map_cons, List.map_nil, List.cons_append, List.nil_append, List.cons.injEq, and_true,
      and_assoc]
  constructor
  · intro read
    obtain ⟨r, r', g, g', b, b', rfl⟩ := exists_six_of_ofDigits? (Option.isSome_of_eq_some read)
    exact (pairs r r' g g' b b').1 read
  · intro same
    have six : chars.length = 6 := by rw [← length_digits colour, ← same, List.length_map]
    obtain ⟨r, r', g, g', b, b', rfl⟩ := exists_six_of_length six
    exact (pairs r r' g g' b b').2 same

theorem isSome_ofDigits?_six {r r' g g' b b' : Char} :
    (ofDigits? [r, r', g, g', b, b']).isSome = true ↔ (channel? r r').isSome = true ∧
      (channel? g g').isSome = true ∧ (channel? b b').isSome = true := by
  simp only [Option.isSome_iff_exists, ofDigits?_six]
  constructor
  · rintro ⟨colour, isRed, isGreen, isBlue⟩
    exact ⟨⟨_, isRed⟩, ⟨_, isGreen⟩, ⟨_, isBlue⟩⟩
  · rintro ⟨⟨red, isRed⟩, ⟨green, isGreen⟩, blue, isBlue⟩
    exact ⟨⟨red, green, blue⟩, isRed, isGreen, isBlue⟩

/-- Characters are read as some colour exactly if they are six digits. -/
theorem isSome_ofDigits?_iff {chars : List Char} :
    (ofDigits? chars).isSome = true ↔ chars.length = 6 ∧ ∀ c ∈ chars, IsHexDigit c := by
  have pairs : ∀ r r' g g' b b', (ofDigits? [r, r', g, g', b, b']).isSome = true ↔
      ∀ c ∈ [r, r', g, g', b, b'], IsHexDigit c := by
    intro r r' g g' b b'
    rw [isSome_ofDigits?_six, isSome_channel?_iff, isSome_channel?_iff, isSome_channel?_iff]
    simp only [List.forall_mem_cons, List.not_mem_nil, false_implies, implies_true, and_true,
      and_assoc]
  constructor
  · intro read
    obtain ⟨r, r', g, g', b, b', rfl⟩ := exists_six_of_ofDigits? read
    exact ⟨rfl, (pairs r r' g g' b b').1 read⟩
  · rintro ⟨six, all⟩
    obtain ⟨r, r', g, g', b, b', rfl⟩ := exists_six_of_length six
    exact (pairs r r' g g' b b').2 all

/-- The three parts of a colour can be cut out of its digits and read, one pair after the other. -/
theorem readsPart_of_ofDigits? {chars : List Char} {colour : Colour}
    (read : ofDigits? chars = some colour) :
    ReadsPart (String.ofList chars) 0 colour.red ∧ ReadsPart (String.ofList chars) 2 colour.green ∧
      ReadsPart (String.ofList chars) 4 colour.blue := by
  obtain ⟨-, all⟩ := isSome_ofDigits?_iff.1 (Option.isSome_of_eq_some read)
  obtain ⟨r, r', g, g', b, b', rfl⟩ := exists_six_of_ofDigits? (Option.isSome_of_eq_some read)
  obtain ⟨red, green, blue⟩ := ofDigits?_six.1 read
  refine ⟨⟨String.ofList [r, r'], Text.isSlice_of_isHexDigit [] [r, r'] [g, g', b, b'] all, ?_⟩,
    ⟨String.ofList [g, g'], Text.isSlice_of_isHexDigit [r, r'] [g, g'] [b, b'] all, ?_⟩,
    ⟨String.ofList [b, b'], Text.isSlice_of_isHexDigit [r, r', g, g'] [b, b'] [] all, ?_⟩⟩
  · rw [String.toList_ofList, hexNumber?_of_channel? red]
  · rw [String.toList_ofList, hexNumber?_of_channel? green]
  · rw [String.toList_ofList, hexNumber?_of_channel? blue]

/-! ## Texts -/

/-- The last six characters of a text that ends in six that are no blanks, whatever stands in front
of them and whatever blanks stand behind. -/
theorem lastSix_append {front before spelling behind : String} (frontBlank : Text.AllBlank front)
    (behindBlank : Text.AllBlank behind) (six : spelling.toList.length = 6)
    (solid : ∀ c ∈ spelling.toList, Text.isBlank c = false) :
    lastSix (front ++ before ++ spelling ++ behind) = spelling.toList := by
  have trimmed : Text.trimBlanks (front ++ before ++ spelling ++ behind).toList =
      before.toList.dropWhile Text.isBlank ++ spelling.toList := by
    cases chars : spelling.toList with
    | nil =>
      rw [chars] at six
      cases six
    | cons c rest =>
      rw [chars] at solid
      obtain ⟨others, last, concat⟩ := (List.eq_nil_or_concat (c :: rest)).resolve_left nofun
      have lastSolid := solid last (by rw [concat]; simp)
      have split : (front ++ before ++ spelling ++ behind).toList =
          front.toList ++ (before.toList ++ c :: rest) ++ behind.toList := by
        simp [chars]
      rw [split, Text.trimBlanks_append_cons frontBlank behindBlank
          (solid c List.mem_cons_self), concat, List.concat_eq_append, ← List.append_assoc,
        Text.dropEndWhile_concat lastSolid]
  rw [lastSix, trimmed, List.length_append, six, Nat.add_sub_cancel, List.drop_left]

/-- The spelling of a colour is six digits, and so it has no blanks. -/
theorem isHexDigit_of_spelling {chars : List Char} {colour : Colour}
    (spelt : chars.map Char.toLower = colour.digits) :
    chars.length = 6 ∧ ∀ c ∈ chars, IsHexDigit c ∧ Text.isBlank c = false := by
  obtain ⟨six, all⟩ := isSome_ofDigits?_iff.1
    (Option.isSome_of_eq_some (ofDigits?_eq_some_iff.2 spelt))
  refine ⟨six, fun c member => ⟨all c member, ?_⟩⟩
  have range := Text.toNat_range_of_isHexDigit (all c member)
  exact Text.isBlank_eq_false (by omega) (by omega)

/-- A text is no colour exactly if there are fewer than six characters in it, the blanks around it
left out, or one of the last six is no digit; it is a colour exactly if these are its six digits in
either case; if they are digits, they can be cut in pairs, and each pair can be read; and six digits
are read as their colour whatever stands in front of them and whatever blanks stand around. -/
theorem parse?_decodes (text : String) :
    (parse? text = none ↔
        (Text.trimBlanks text.toList).length < 6 ∨ ∃ c ∈ lastSix text, ¬ IsHexDigit c) ∧
      (∀ colour, parse? text = some colour ↔
        (lastSix text).map Char.toLower = colour.digits) ∧
      (6 ≤ (Text.trimBlanks text.toList).length → (∀ c ∈ lastSix text, IsHexDigit c) →
        ∃ colour, parse? text = some colour ∧
          ReadsPart (String.ofList (lastSix text)) 0 colour.red ∧
          ReadsPart (String.ofList (lastSix text)) 2 colour.green ∧
          ReadsPart (String.ofList (lastSix text)) 4 colour.blue) ∧
      ∀ (colour : Colour) (front before spelling behind : String),
        text = front ++ before ++ spelling ++ behind → Text.AllBlank front →
        Text.AllBlank behind → spelling.toList.map Char.toLower = colour.digits →
        parse? text = some colour := by
  have read : (parse? text).isSome = true ↔
      6 ≤ (Text.trimBlanks text.toList).length ∧ ∀ c ∈ lastSix text, IsHexDigit c := by
    have six : (lastSix text).length = 6 ↔ 6 ≤ (Text.trimBlanks text.toList).length := by
      rw [length_lastSix]
      omega
    rw [parse?_eq_ofDigits?, isSome_ofDigits?_iff, six]
  refine ⟨?_, fun colour => ?_, fun long all => ?_, ?_⟩
  · rw [← Option.not_isSome_iff_eq_none, read, not_and_or, Nat.not_le]
    simp only [not_forall, exists_prop]
  · rw [parse?_eq_ofDigits?, ofDigits?_eq_some_iff]
  · obtain ⟨colour, parsed⟩ := Option.isSome_iff_exists.1 (read.2 ⟨long, all⟩)
    exact ⟨colour, parsed, readsPart_of_ofDigits? parsed⟩
  · rintro colour front before spelling behind rfl frontBlank behindBlank spelt
    obtain ⟨six, all⟩ := isHexDigit_of_spelling spelt
    rw [parse?_eq_ofDigits?,
      lastSix_append frontBlank behindBlank six fun c member => (all c member).2,
      ofDigits?_eq_some_iff, spelt]

/-- Six digits in both cases, behind a character that takes two bytes. -/
theorem parse?_decodes_accentedViolet :
    Text.AllBlank "\xA0" ∧ "7a0BFf".toList.map Char.toLower = digits ⟨0x7A, 0x0B, 0xFF⟩ ∧
      parse? ("\xA0" ++ "é #" ++ "7a0BFf" ++ "\n") = some ⟨0x7A, 0x0B, 0xFF⟩ ∧
      ReadsPart "7a0BFf" 2 0x0B := by
  have front : Text.AllBlank "\xA0" := by decide +kernel
  have behind : Text.AllBlank "\n" := by decide +kernel
  have spelt : "7a0BFf".toList.map Char.toLower = digits ⟨0x7A, 0x0B, 0xFF⟩ := by decide +kernel
  have six : lastSix ("\xA0" ++ "é #" ++ "7a0BFf" ++ "\n") = "7a0BFf".toList := by decide +kernel
  obtain ⟨-, -, parts, spelling⟩ := parse?_decodes ("\xA0" ++ "é #" ++ "7a0BFf" ++ "\n")
  have parsed := spelling _ "\xA0" "é #" "7a0BFf" "\n" rfl front behind spelt
  rw [six, String.ofList_toList] at parts
  obtain ⟨-, all⟩ := isHexDigit_of_spelling spelt
  obtain ⟨colour, same, -, green, -⟩ := parts (by decide +kernel) fun c member => (all c member).1
  rw [parsed, Option.some_inj] at same
  subst same
  exact ⟨front, spelt, parsed, green⟩

end Colour

end Folio
