import Folio.Json.Printer
import Folio.Proofs.ReadingSteps

/-!
# Strings in JSON texts

A character of a string can be written as itself, by a letter behind a backslash, by its code in
base sixteen, or by a pair of code units (`SpellsChar`); which of these a text takes is its own
choice for every character. Whatever it takes, the string is read back as it was
(`outcome_stringBody_spelled`). The printer takes one of them for each character
(`spellsChar_writtenChar`), so what it writes is read back too.
-/

namespace Folio.Json

/-! ## Spellings -/

/-- Whether a text is one of the ways to write a character in a string. -/
inductive SpellsChar : List Char → Char → Prop
  | plain {c : Char} (noQuote : c ≠ '"') (noEscape : c ≠ '\\') (noControl : ¬ c.toNat < 0x20) :
    SpellsChar [c] c
  | letter {letter c : Char} (stands : escapedChar? letter = some c) :
    SpellsChar ['\\', letter] c
  | unit {digits : List Char} {c : Char} (four : digits.length = 4)
      (code : Text.hexNumber? digits = some c.toNat) :
    SpellsChar ('\\' :: 'u' :: digits) c
  | pair {first second : List Char} {leading trailing : Nat} {c : Char}
      (four : first.length = 4) (four' : second.length = 4)
      (firstCode : Text.hexNumber? first = some leading)
      (secondCode : Text.hexNumber? second = some trailing)
      (isFirst : isLeading leading = true) (isSecond : isTrailing trailing = true)
      (code : c.toNat = 0x10000 + 0x400 * (leading - 0xD800) + (trailing - 0xDC00)) :
    SpellsChar ('\\' :: 'u' :: (first ++ '\\' :: 'u' :: second)) c

/-- Whether a text writes characters one after the other. -/
inductive SpellsChars : List Char → List Char → Prop
  | nil : SpellsChars [] []
  | cons {text rest : List Char} {c : Char} {chars : List Char} (first : SpellsChar text c)
      (others : SpellsChars rest chars) : SpellsChars (text ++ rest) (c :: chars)

/-- Whether a text is a string with its quotes. -/
def StringText (text : List Char) (s : String) : Prop :=
  ∃ body, text = '"' :: (body ++ ['"']) ∧ SpellsChars body s.toList

/-! ## Steps -/

theorem outcome_stringChars_quote (rest : List Char) :
    outcome (stringChars ('"' :: rest)) = some ([], rest) := by
  rw [stringChars]
  rfl

theorem outcome_stringChars_escape (text : List Char) :
    outcome (stringChars ('\\' :: text)) = (outcome (escape text)).bind fun read =>
      (outcome (stringChars read.2)).map fun others => (read.1 :: others.1, others.2) := by
  rw [stringChars]
  refine outcome_bind fun c rest => ?_
  rw [Option.map_eq_bind]
  exact outcome_bind fun chars rest => rfl

theorem outcome_stringChars_plain {c : Char} (noQuote : c ≠ '"') (noEscape : c ≠ '\\')
    (noControl : ¬ c.toNat < 0x20) (text : List Char) :
    outcome (stringChars (c :: text)) =
      (outcome (stringChars text)).map fun others => (c :: others.1, others.2) := by
  rw [stringChars]
  · rw [if_neg noControl, Option.map_eq_bind]
    exact outcome_bind fun chars rest => rfl
  · exact noQuote
  · exact noEscape

theorem outcome_escape_letter {letter c : Char} (stands : escapedChar? letter = some c)
    (rest : List Char) : outcome (escape (letter :: rest)) = some (c, rest) := by
  have noUnicode : letter ≠ 'u' := by
    rintro rfl
    cases stands
  rw [escape]
  · rw [stands]
    rfl
  · exact noUnicode

theorem outcome_escape_unicode (text : List Char) :
    outcome (escape ('u' :: text)) = outcome (unicodeEscape text) := by
  have passed : outcome (escape ('u' :: text)) = (outcome (unicodeEscape text)).map id :=
    outcome_map fun c rest => rfl
  rw [passed, Option.map_id, id]

/-! ## Code units -/

theorem codeUnit_append {digits : List Char} {n : Nat} (four : digits.length = 4)
    (code : Text.hexNumber? digits = some n) (rest : List Char) :
    ∃ h, codeUnit (digits ++ rest) = .ok (n, ⟨rest, h⟩) := by
  match digits, four with
  | [a, b, c, d], _ =>
    refine ⟨by simp; omega, ?_⟩
    simp only [List.cons_append, List.nil_append, codeUnit, code]

/-- A character is no half of a pair. -/
theorem not_half (c : Char) : isTrailing c.toNat = false ∧ isLeading c.toNat = false := by
  have valid : c.toNat < 0xD800 ∨ 0xDFFF < c.toNat ∧ c.toNat < 0x110000 := c.valid
  simp only [isTrailing, isLeading, Bool.and_eq_false_iff, decide_eq_false_iff_not]
  omega

theorem outcome_unicodeEscape_unit {digits : List Char} {c : Char} (four : digits.length = 4)
    (code : Text.hexNumber? digits = some c.toNat) (rest : List Char) :
    outcome (unicodeEscape (digits ++ rest)) = some (c, rest) := by
  obtain ⟨h, unit⟩ := codeUnit_append four code rest
  obtain ⟨noTrailing, noLeading⟩ := not_half c
  rw [unicodeEscape, unit]
  dsimp only [bind, Except.bind]
  rw [noTrailing, noLeading, Char.ofNat_toNat]
  rfl

theorem outcome_unicodeEscape_pair {first second : List Char} {leading trailing : Nat} {c : Char}
    (four : first.length = 4) (four' : second.length = 4)
    (firstCode : Text.hexNumber? first = some leading)
    (secondCode : Text.hexNumber? second = some trailing) (isFirst : isLeading leading = true)
    (isSecond : isTrailing trailing = true)
    (code : c.toNat = 0x10000 + 0x400 * (leading - 0xD800) + (trailing - 0xDC00))
    (rest : List Char) :
    outcome (unicodeEscape (first ++ '\\' :: 'u' :: (second ++ rest))) = some (c, rest) := by
  obtain ⟨h, unit⟩ := codeUnit_append four firstCode ('\\' :: 'u' :: (second ++ rest))
  obtain ⟨h', unit'⟩ := codeUnit_append four' secondCode rest
  have noTrailing : isTrailing leading = false := by
    simp only [isLeading, isTrailing, Bool.and_eq_true, decide_eq_true_eq,
      Bool.and_eq_false_iff, decide_eq_false_iff_not] at isFirst ⊢
    omega
  have char : pairedChar leading trailing = c := by
    rw [pairedChar, ← code, Char.ofNat_toNat]
  rw [unicodeEscape, unit]
  dsimp only [bind, Except.bind]
  rw [noTrailing, isFirst, if_neg (by decide), if_pos rfl]
  change outcome ((codeUnit (second ++ rest)).bind _) = _
  rw [unit', Except.bind]
  dsimp only
  rw [isSecond, char]
  rfl

/-! ## Strings -/

/-- A character is read back from each of its spellings. -/
theorem outcome_stringChars_append {text : List Char} {c : Char} (spelled : SpellsChar text c)
    (rest : List Char) :
    outcome (stringChars (text ++ rest)) =
      (outcome (stringChars rest)).map fun others => (c :: others.1, others.2) := by
  cases spelled with
  | plain noQuote noEscape noControl =>
    rw [List.singleton_append, outcome_stringChars_plain noQuote noEscape noControl]
  | letter stands =>
    rw [List.cons_append, List.singleton_append, outcome_stringChars_escape,
      outcome_escape_letter stands, Option.bind_some]
  | unit four code =>
    rw [List.cons_append, List.cons_append, outcome_stringChars_escape, outcome_escape_unicode,
      outcome_unicodeEscape_unit four code, Option.bind_some]
  | pair four four' firstCode secondCode isFirst isSecond code =>
    rw [List.cons_append, List.cons_append, List.append_assoc, List.cons_append, List.cons_append,
      outcome_stringChars_escape, outcome_escape_unicode,
      outcome_unicodeEscape_pair four four' firstCode secondCode isFirst isSecond code,
      Option.bind_some]

theorem outcome_stringChars_spelled {body chars : List Char} (spelled : SpellsChars body chars)
    (rest : List Char) :
    outcome (stringChars (body ++ '"' :: rest)) = some (chars, rest) := by
  induction spelled with
  | nil => exact outcome_stringChars_quote rest
  | cons first _ ih =>
    rw [List.append_assoc, outcome_stringChars_append first, ih, Option.map_some]

/-- A string is read back, up to its closing quote. -/
theorem outcome_stringBody_spelled {body : List Char} {s : String}
    (spelled : SpellsChars body s.toList) (rest : List Char) :
    outcome (stringBody (body ++ '"' :: rest)) = some (s, rest) := by
  have passed : outcome (stringBody (body ++ '"' :: rest)) =
      (outcome (stringChars (body ++ '"' :: rest))).map
        fun read => (String.ofList read.1, read.2) :=
    outcome_map fun chars rest => rfl
  rw [passed, outcome_stringChars_spelled spelled, Option.map_some, String.ofList_toList]

/-! ## What the printer writes -/

theorem length_hexPadded_of_control : ∀ n < 32, (Text.hexPadded 4 n).length = 4 := by
  decide

theorem hexNumber?_hexPadded_of_control : ∀ n < 32,
    Text.hexNumber? (Text.hexPadded 4 n) = some n := by
  decide

/-- What is written for a character is one of its spellings. -/
theorem spellsChar_writtenChar (c : Char) : SpellsChar (writtenChar c) c := by
  unfold writtenChar
  split
  · subst_vars
    exact .letter rfl
  split
  · subst_vars
    exact .letter rfl
  split
  · subst_vars
    exact .letter rfl
  split
  · subst_vars
    exact .letter rfl
  split
  · subst_vars
    exact .letter rfl
  split
  · subst_vars
    exact .letter rfl
  split
  · subst_vars
    exact .letter rfl
  split
  · rename_i control
    exact .unit (length_hexPadded_of_control _ control) (hexNumber?_hexPadded_of_control _ control)
  · rename_i noQuote noEscape _ _ _ _ _ noControl
    exact .plain noQuote noEscape noControl

/-- A written string is the text of the string. -/
theorem stringText_writtenString (s : String) : StringText (writtenString s) s := by
  refine ⟨s.toList.flatMap writtenChar, rfl, ?_⟩
  induction s.toList with
  | nil => exact .nil
  | cons c chars ih =>
    rw [List.flatMap_cons]
    exact .cons (spellsChar_writtenChar c) ih

end Folio.Json
