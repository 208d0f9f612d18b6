import Mathlib
import Folio.Style

/-!
# Folding names and values

Attribute names are trimmed and put in lower case wherever a style is built or asked, and values
are trimmed. A name can pass through this several times: a directive's names are folded when its
style is built and once more when they are set on an element. This module shows that nothing
happens after the first time.

The two halves of `foldName` commute (`trim_lower`), because lower case neither makes nor removes a
blank, and each of them is idempotent (`trim_trim`, `lower_lower`). Nor does anything happen to the
words of a value that has been folded (`foldName_of_mem_words`).
-/

namespace Folio

namespace Text

/-! ## Blanks at the ends -/

/-- What is left of a text has no blank in front, so taking blanks off the end keeps it so. -/
theorem dropWhile_trimBlanks (text : List Char) :
    (trimBlanks text).dropWhile isBlank = trimBlanks text := by
  have kept : trimBlanks text <+: text.dropWhile isBlank :=
    List.rdropWhile_prefix isBlank (text.dropWhile isBlank)
  rw [List.dropWhile_eq_self_iff]
  intro nonempty
  rw [kept.getElem nonempty]
  have clean := List.dropWhile_idempotent isBlank text
  rw [List.dropWhile_eq_self_iff] at clean
  exact clean (Nat.lt_of_lt_of_le nonempty kept.length_le)

theorem trimBlanks_trimBlanks (text : List Char) :
    trimBlanks (trimBlanks text) = trimBlanks text := by
  conv_lhs => rw [trimBlanks, dropWhile_trimBlanks]
  exact List.rdropWhile_idempotent isBlank (text.dropWhile isBlank)

@[simp] theorem trim_trim (text : String) : trim (trim text) = trim text := by
  rw [trim, trim, String.toList_ofList, trimBlanks_trimBlanks]

/-! ## Lower case -/

@[simp] theorem lower_lower (text : String) : lower (lower text) = lower text := by
  rw [lower, lower, String.toList_ofList, List.map_map]
  congr 1
  exact List.map_congr_left fun c _ => Char.toLower_toLower_eq_toLower c

/-- Lower case neither makes nor removes a blank: no blank is a letter of either case. -/
theorem isBlank_toLower (c : Char) : isBlank c.toLower = isBlank c := by
  by_cases upper : c.isUpper
  · have range : 65 ≤ c.toNat ∧ c.toNat ≤ 90 := by
      simpa [Char.isUpper, UInt32.le_iff_toNat_le] using upper
    have code : (Char.ofNat (c.toNat + 32)).toNat = c.toNat + 32 := by
      rw [Char.toNat_ofNat, if_pos (Or.inl (by omega))]
    rw [Char.toLower_eq_of_isUpper upper, Bool.eq_iff_iff]
    simp only [isBlank, code, Bool.or_eq_true, Bool.and_eq_true, decide_eq_true_eq, beq_iff_eq]
    omega
  · rw [Char.toLower_eq_of_not_isUpper upper]

theorem dropEndWhile_map_toLower (text : List Char) :
    dropEndWhile isBlank (text.map Char.toLower) =
      (dropEndWhile isBlank text).map Char.toLower := by
  have same : isBlank ∘ Char.toLower = isBlank := funext isBlank_toLower
  rw [dropEndWhile, dropEndWhile, ← List.map_reverse, List.dropWhile_map, same, List.map_reverse]

/-- Trimming and lower case can be done in either order. -/
theorem trim_lower (text : String) : trim (lower text) = lower (trim text) := by
  have same : isBlank ∘ Char.toLower = isBlank := funext isBlank_toLower
  rw [trim, lower, String.toList_ofList, trimBlanks, List.dropWhile_map, same,
    dropEndWhile_map_toLower, lower, trim, String.toList_ofList, trimBlanks]

/-! ## Words -/

/-- The pieces of a text are made of its characters that are no blanks. -/
theorem of_mem_pieces {text piece : List Char} (member : piece ∈ pieces text) {c : Char}
    (inside : c ∈ piece) : c ∈ text ∧ isBlank c = false := by
  induction text generalizing piece with
  | nil =>
    rw [pieces, List.mem_singleton] at member
    subst member
    cases inside
  | cons first rest ih =>
    have later : ∀ {piece}, piece ∈ pieces rest → c ∈ piece →
        c ∈ first :: rest ∧ isBlank c = false := by
      intro piece member inside
      exact ⟨List.mem_cons_of_mem first (ih member inside).1, (ih member inside).2⟩
    rw [pieces] at member
    split at member
    · rcases List.mem_cons.1 member with rfl | member
      · cases inside
      · exact later member inside
    · rename_i noBlank
      have here : first ∈ first :: rest ∧ isBlank first = false :=
        ⟨List.mem_cons_self, Bool.eq_false_iff.2 noBlank⟩
      cases cut : pieces rest with
      | nil =>
        rw [cut] at member
        cases List.mem_singleton.1 member
        cases List.mem_singleton.1 inside
        exact here
      | cons head others =>
        rw [cut] at member later
        rcases List.mem_cons.1 member with rfl | member
        · rcases List.mem_cons.1 inside with rfl | inside
          · exact here
          · exact later List.mem_cons_self inside
        · exact later (List.mem_cons_of_mem head member) inside

theorem trim_of_no_blank {text : String} (clean : ∀ c ∈ text.toList, isBlank c = false) :
    trim text = text := by
  have front : text.toList.dropWhile isBlank = text.toList := by
    rw [List.dropWhile_eq_self_iff]
    intro nonempty
    rw [clean _ (List.getElem_mem nonempty)]
    exact Bool.false_ne_true
  have back : text.toList.reverse.dropWhile isBlank = text.toList.reverse := by
    rw [List.dropWhile_eq_self_iff]
    intro nonempty
    rw [clean _ (List.mem_reverse.1 (List.getElem_mem nonempty))]
    exact Bool.false_ne_true
  rw [trim, trimBlanks, front, dropEndWhile, back, List.reverse_reverse, String.ofList_toList]

theorem lower_eq_self_iff {text : String} :
    lower text = text ↔ ∀ c ∈ text.toList, c.toLower = c := by
  have same := List.map_inj_left (l := text.toList) (f := Char.toLower) (g := id)
  rw [List.map_id] at same
  rw [lower, String.ofList_eq]
  exact same

end Text

/-! ## Names -/

@[simp] theorem foldName_foldName (name : String) : foldName (foldName name) = foldName name := by
  rw [foldName, foldName, Text.trim_lower, Text.trim_trim, Text.lower_lower]

/-- A folded name is spelled the way a folded name is to be spelled. -/
theorem Style.isFolded_foldName (name : String) : Style.isFolded (foldName name) = true := by
  have trimmed : Text.trim (foldName name) = foldName name := by
    rw [foldName, Text.trim_lower, Text.trim_trim]
  rw [Style.isFolded, trimmed, foldName_foldName, beq_self_eq_true]

/-- The words of a text in lower case are folded. -/
theorem foldName_of_mem_words {text word : String} (lowered : Text.lower text = text)
    (member : word ∈ Text.words text) : foldName word = word := by
  obtain ⟨piece, cut, rfl⟩ := List.mem_map.1 member
  have chars : ∀ c ∈ (String.ofList piece).toList, c ∈ text.toList ∧ Text.isBlank c = false := by
    rw [String.toList_ofList]
    exact fun c inside => Text.of_mem_pieces (List.mem_of_mem_filter cut) inside
  rw [foldName, Text.trim_of_no_blank fun c inside => (chars c inside).2, Text.lower_eq_self_iff]
  exact fun c inside => Text.lower_eq_self_iff.1 lowered c (chars c inside).1

end Folio
