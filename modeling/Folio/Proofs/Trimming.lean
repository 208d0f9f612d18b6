import Mathlib.Data.List.Basic
import Folio.Text.Blank

/-!
# Trimming a text put together from parts

A text with a character that is no blank is trimmed on each side of that character by itself
(`trimBlanks_append_cons`), so blanks put around a text make no difference, and what it ends in stays
if it is no blank.
-/

namespace Folio.Text

/-- A text without any character but blanks. -/
def AllBlank (text : String) : Prop :=
  ∀ c ∈ text.toList, isBlank c = true

instance (text : String) : Decidable (AllBlank text) :=
  decidable_of_iff (text.toList.all isBlank = true) List.all_eq_true

/-- Between the code of the space and the end of ASCII there are no blanks. -/
theorem isBlank_eq_false {c : Char} (low : 32 < c.toNat) (high : c.toNat < 127) :
    isBlank c = false := by
  rw [Bool.eq_false_iff]
  intro blank
  simp only [isBlank, Bool.or_eq_true, Bool.and_eq_true, decide_eq_true_eq, beq_iff_eq] at blank
  omega

variable {drops : Char → Bool}

theorem dropEndWhile_append_of_all {behind : List Char} (all : ∀ c ∈ behind, drops c = true)
    (text : List Char) : dropEndWhile drops (text ++ behind) = dropEndWhile drops text := by
  rw [dropEndWhile, List.reverse_append,
    List.dropWhile_append_of_pos fun c member => all c (List.mem_reverse.1 member), dropEndWhile]

theorem dropEndWhile_concat {c : Char} (kept : drops c = false) (text : List Char) :
    dropEndWhile drops (text ++ [c]) = text ++ [c] := by
  rw [dropEndWhile, List.reverse_concat, List.dropWhile_cons_of_neg (by rw [kept]; decide),
    List.reverse_cons, List.reverse_reverse]

theorem dropWhile_append_cons {c : Char} (kept : drops c = false) (text rest : List Char) :
    (text ++ c :: rest).dropWhile drops = text.dropWhile drops ++ c :: rest := by
  rw [List.dropWhile_append]
  split
  · rename_i nothing
    rw [List.isEmpty_iff.1 nothing, List.dropWhile_cons_of_neg (by rw [kept]; decide),
      List.nil_append]
  · rfl

/-- Around a character that is no blank, trimming takes blanks off the front of what stands before it
and off the end of what stands behind it. -/
theorem trimBlanks_append_cons {front behind : List Char}
    (frontBlank : ∀ c ∈ front, isBlank c = true) (behindBlank : ∀ c ∈ behind, isBlank c = true)
    {c : Char} (kept : isBlank c = false) (before tail : List Char) :
    trimBlanks (front ++ (before ++ c :: tail) ++ behind) =
      dropEndWhile isBlank (before.dropWhile isBlank ++ c :: tail) := by
  rw [trimBlanks, List.append_assoc, List.dropWhile_append_of_pos frontBlank, List.append_assoc,
    List.cons_append, dropWhile_append_cons kept, ← List.cons_append, ← List.append_assoc,
    dropEndWhile_append_of_all behindBlank]

/-- A text that ends in a character that is no blank has blanks to lose in front only. -/
theorem trimBlanks_concat {c : Char} (kept : isBlank c = false) (before : List Char) :
    trimBlanks (before ++ [c]) = before.dropWhile isBlank ++ [c] := by
  have trimmed := trimBlanks_append_cons (List.forall_mem_nil _) (List.forall_mem_nil _) kept
    before []
  rw [List.nil_append, List.append_nil] at trimmed
  rw [trimmed, dropEndWhile_concat kept]

end Folio.Text
