import Folio.Json.Printer
import Folio.Proofs.JsonText

/-!
# Forms as texts of values

The printer lays a form out over lines, and what it puts between the parts is blank. So the layout
of a list or an object is a bracket with the layouts of its parts inside (`bracketText_list`,
`bracketText_object`), and a form is a text of a value, at whatever depth it stands, if its parts
are texts of the parts of the value (`Spells`).
-/

namespace Folio.Json

/-- Whether a text is the layout of a form at a depth. -/
def LaidOut (depth : Nat) (text : List Char) (form : Form) : Prop :=
  text = form.pretty depth

theorem blanks_newLine (depth : Nat) : Blanks (newLine depth) := by
  intro c member
  rcases List.mem_cons.1 member with rfl | blank
  · decide
  · rw [(List.mem_replicate.1 blank).2]
    decide

theorem blanks_nil : Blanks [] := by
  decide

theorem blanks_space : Blanks [' '] := by
  decide

/-! ## Lists -/

theorem tailText_prettyItems (depth outer : Nat) (forms : List Form) :
    TailText ']' (LaidOut depth) (prettyItems depth forms ++ (newLine outer ++ [']'])) forms := by
  induction forms with
  | nil => exact .close (blanks_newLine outer)
  | cons form forms ih =>
    have item : LaidOut depth (form.pretty depth) form := rfl
    have tail := TailText.next blanks_nil (blanks_newLine depth) item ih
    rw [prettyItems]
    simpa only [List.nil_append, List.cons_append, List.append_assoc] using tail

/-- The layout of a list. -/
theorem bracketText_list (depth : Nat) (forms : List Form) :
    BracketText '[' ']' (LaidOut (depth + 1)) ((Form.list forms).pretty depth) forms := by
  cases forms with
  | nil => exact .empty blanks_nil
  | cons form forms =>
    have item : LaidOut (depth + 1) (form.pretty (depth + 1)) form := rfl
    have tail := tailText_prettyItems (depth + 1) depth forms
    rw [Form.pretty]
    simp only [List.cons_append, List.append_assoc]
    exact .items (blanks_newLine (depth + 1)) item tail

/-! ## Objects -/

theorem memberText_pretty (depth : Nat) (key : String) (form : Form) :
    MemberText (LaidOut depth) (writtenString key ++ ':' :: ' ' :: form.pretty depth) (key, form) :=
  .mk (stringText_writtenString key) blanks_nil blanks_space rfl

theorem tailText_prettyMembers (depth outer : Nat) (entries : List (String × Form)) :
    TailText '\x7d' (MemberText (LaidOut depth))
      (prettyMembers depth entries ++ (newLine outer ++ ['\x7d'])) entries := by
  induction entries with
  | nil => exact .close (blanks_newLine outer)
  | cons entry entries ih =>
    obtain ⟨key, form⟩ := entry
    have member := memberText_pretty depth key form
    have tail := TailText.next blanks_nil (blanks_newLine depth) member ih
    rw [prettyMembers]
    simpa only [List.nil_append, List.cons_append, List.append_assoc] using tail

/-- The layout of an object. -/
theorem bracketText_object (depth : Nat) (entries : List (String × Form)) :
    BracketText '\x7b' '\x7d' (MemberText (LaidOut (depth + 1)))
      ((Form.object entries).pretty depth) entries := by
  cases entries with
  | nil => exact .empty blanks_nil
  | cons entry entries =>
    obtain ⟨key, form⟩ := entry
    have member := memberText_pretty (depth + 1) key form
    have tail := tailText_prettyMembers (depth + 1) depth entries
    rw [Form.pretty]
    simpa only [List.cons_append, List.append_assoc] using
      BracketText.items (blanks_newLine (depth + 1)) member tail

/-! ## Values -/

open List (Forall₂)

/-- Whether the layouts of a form are texts of a value, with at most so many brackets open at
once. -/
def Spells (brackets : Nat) (form : Form) (x : Value) : Prop :=
  ∀ depth, TextOf brackets (form.pretty depth) x

theorem spells_null (brackets : Nat) : Spells brackets .null .null :=
  fun _ => textOf_scalar .null brackets

theorem spells_bool (brackets : Nat) (b : Bool) : Spells brackets (.bool b) (.bool b) :=
  fun _ => textOf_scalar (.bool b) brackets

theorem spells_number (brackets : Nat) {text : List Char} {n : Number}
    (numeral : NumberText text n) : Spells brackets (.number text) (.number n) :=
  fun _ => textOf_scalar (.number numeral) brackets

theorem spells_string (brackets : Nat) (s : String) : Spells brackets (.string s) (.string s) :=
  fun _ => textOf_scalar (.string (stringText_writtenString s)) brackets

/-- The layout of an object is the text of an object of what its members spell. -/
theorem bracketText_object_of_spells {brackets : Nat} {entries : List (String × Form)}
    {xs : List (String × Value)}
    (spelt : Forall₂ (fun entry x => entry.1 = x.1 ∧ Spells brackets entry.2 x.2) entries xs)
    (depth : Nat) :
    BracketText '\x7b' '\x7d' (MemberText (TextOf brackets)) ((Form.object entries).pretty depth)
      xs := by
  refine (bracketText_object depth entries).relate ?_ spelt
  rintro text ⟨key, form⟩ ⟨key', x⟩ member ⟨rfl, spelt⟩
  cases member with
  | mk named blank blank' laidOut =>
    refine .mk named blank blank' ?_
    rw [laidOut]
    exact spelt (depth + 1)

theorem spells_object {brackets : Nat} {entries : List (String × Form)}
    {xs : List (String × Value)}
    (spelt : Forall₂ (fun entry x => entry.1 = x.1 ∧ Spells brackets entry.2 x.2) entries xs) :
    Spells (brackets + 1) (.object entries) (.object xs) :=
  fun depth => .object (bracketText_object_of_spells spelt depth)

end Folio.Json
