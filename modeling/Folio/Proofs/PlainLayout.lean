import Folio.Draw.Writing
import Folio.Proofs.FormText
import Folio.Proofs.SingleText

/-!
# No control characters in written texts

The printer puts in line feeds and blanks, the escapes of a string take every control character out
of it, and numbers are digits and marks. So the text of commands has no control character but the
line feed, whatever strings they hold (`plain_writeCommands`), and least of all a NUL.
-/

namespace Folio

namespace Json

/-- Whether a text has no control character but the line feed. -/
def Plain (text : List Char) : Prop :=
  ∀ c ∈ text, c = '\n' ∨ 0x20 ≤ c.toNat

instance (text : List Char) : Decidable (Plain text) :=
  List.decidableBAll _ text

@[simp] theorem plain_nil : Plain [] := by
  rintro _ ⟨⟩

@[simp] theorem plain_append {text rest : List Char} :
    Plain (text ++ rest) ↔ Plain text ∧ Plain rest :=
  List.forall_mem_append

@[simp] theorem plain_cons {c : Char} {rest : List Char} :
    Plain (c :: rest) ↔ (c = '\n' ∨ 0x20 ≤ c.toNat) ∧ Plain rest :=
  List.forall_mem_cons

theorem nul_notMem_of_plain {text : List Char} (plain : Plain text) : '\x00' ∉ text := by
  intro member
  rcases plain '\x00' member with lineFeed | seen
  · cases lineFeed
  · exact absurd seen (by decide)

/-! ## Scalars -/

theorem plain_of_digits {text : List Char} (areDigits : ∀ c ∈ text, c.isDigit = true) :
    Plain text := by
  intro c member
  have digit := areDigits c member
  simp only [Char.isDigit, Bool.and_eq_true, decide_eq_true_eq] at digit
  have least : (48 : UInt32).toNat ≤ c.toNat := UInt32.le_iff_toNat_le.1 digit.1
  exact .inr (Nat.le_trans (by decide) least)

theorem plain_toDigits (n : Nat) : Plain (Nat.toDigits 10 n) :=
  plain_of_digits (areDigits_toDigits n).2

theorem plain_of_numberText {text : List Char} {n : Number} (numeral : NumberText text n) :
    Plain text := by
  obtain ⟨digits, x, ⟨formed, exponent, spelt, rfl⟩, -, rfl⟩ := numeral
  have sign : Plain (if x.negative then ['-'] else []) := by
    cases x.negative <;> decide
  have fraction : Plain (fractionText x.fraction) := by
    cases part : x.fraction with
    | none => decide
    | some digits =>
      exact plain_cons.2 ⟨by decide, plain_of_digits (formed.fraction digits part).2⟩
  have mark : Plain exponent := by
    have areDigits := formed.exponent
    generalize x.exponent = part at spelt areDigits
    cases spelt with
    | none => decide
    | @some mark sign digits down isMark signed =>
      have markPlain : mark = '\n' ∨ 0x20 ≤ mark.toNat := by
        obtain rfl | rfl := isMark <;> decide
      have signPlain : Plain sign := by
        cases signed <;> decide
      exact plain_cons.2 ⟨markPlain, plain_append.2
        ⟨signPlain, plain_of_digits (areDigits (down, digits) rfl).2⟩⟩
  exact plain_append.2 ⟨sign, plain_append.2 ⟨plain_of_digits formed.whole.2,
    plain_append.2 ⟨fraction, mark⟩⟩⟩

theorem plain_hexPadded : ∀ n < 32, Plain (Text.hexPadded 4 n) := by
  decide

theorem plain_writtenChar (c : Char) : Plain (writtenChar c) := by
  unfold writtenChar
  split
  · decide
  split
  · decide
  split
  · decide
  split
  · decide
  split
  · decide
  split
  · decide
  split
  · decide
  split
  · rename_i control
    exact plain_cons.2 ⟨by decide, plain_cons.2 ⟨by decide, plain_hexPadded _ control⟩⟩
  · rename_i seen
    exact plain_cons.2 ⟨.inr (Nat.le_of_not_lt seen), by decide⟩

theorem plain_writtenString (s : String) : Plain (writtenString s) := by
  refine plain_cons.2 ⟨by decide, plain_append.2 ⟨?_, by decide⟩⟩
  intro c member
  obtain ⟨c', -, member⟩ := List.mem_flatMap.1 member
  exact plain_writtenChar c' c member

/-! ## Layouts -/

/-- Whether every layout of a form is plain. -/
def Form.IsPlain (form : Form) : Prop :=
  ∀ depth, Plain (form.pretty depth)

@[simp] theorem plain_newLine (depth : Nat) : Plain (newLine depth) := by
  refine plain_cons.2 ⟨by decide, fun c member => ?_⟩
  rw [(List.mem_replicate.1 member).2]
  decide

theorem plain_prettyItems {forms : List Form} (parts : ∀ form ∈ forms, form.IsPlain)
    (depth : Nat) : Plain (prettyItems depth forms) := by
  induction forms with
  | nil => exact plain_nil
  | cons form forms ih =>
    obtain ⟨first, others⟩ := List.forall_mem_cons.1 parts
    simp [prettyItems, first depth, ih others]

theorem isPlain_list {forms : List Form} (parts : ∀ form ∈ forms, form.IsPlain) :
    (Form.list forms).IsPlain := by
  intro depth
  cases forms with
  | nil => simp [Form.pretty]
  | cons form forms =>
    obtain ⟨first, others⟩ := List.forall_mem_cons.1 parts
    simp [Form.pretty, first (depth + 1), plain_prettyItems others]

theorem plain_prettyMembers {entries : List (String × Form)}
    (parts : ∀ entry ∈ entries, entry.2.IsPlain) (depth : Nat) :
    Plain (prettyMembers depth entries) := by
  induction entries with
  | nil => exact plain_nil
  | cons entry entries ih =>
    obtain ⟨key, form⟩ := entry
    obtain ⟨first, others⟩ := List.forall_mem_cons.1 parts
    simp [prettyMembers, plain_writtenString, first depth, ih others]

theorem isPlain_object {entries : List (String × Form)}
    (parts : ∀ entry ∈ entries, entry.2.IsPlain) : (Form.object entries).IsPlain := by
  intro depth
  cases entries with
  | nil => simp [Form.pretty]
  | cons entry entries =>
    obtain ⟨key, form⟩ := entry
    obtain ⟨first, others⟩ := List.forall_mem_cons.1 parts
    simp [Form.pretty, plain_writtenString, first (depth + 1), plain_prettyMembers others]

theorem isPlain_string (s : String) : (Form.string s).IsPlain :=
  fun _ => plain_writtenString s

theorem isPlain_null : Form.null.IsPlain := by
  intro depth
  rw [Form.pretty]
  decide

theorem isPlain_bool (b : Bool) : (Form.bool b).IsPlain := by
  intro depth
  rw [Form.pretty]
  cases b <;> decide

end Json

/-! ## Commands -/

open Json (Form)

theorem isPlain_numberForm (x : Float32) : (numberForm x).IsPlain := by
  rw [numberForm]
  split
  · rename_i finite
    obtain ⟨y, numeral, -⟩ := Json.exists_isReadAs_single finite
    exact fun _ => Json.plain_of_numberText numeral
  · exact Json.isPlain_null

theorem isPlain_partForm (part : UInt8) : (partForm part).IsPlain :=
  fun _ => Json.plain_toDigits part.toNat

theorem isPlain_colourForm (colour : Colour) : colour.form.IsPlain := by
  refine Json.isPlain_object ?_
  simp [isPlain_partForm]

theorem isPlain_commandForm (command : Command) : command.form.IsPlain := by
  refine Json.isPlain_object (List.forall_mem_cons.2 ⟨Json.isPlain_string _, ?_⟩)
  cases command with
  | cell drawn =>
    simp only [Command.members, List.forall_mem_cons, isPlain_numberForm, Json.isPlain_string,
      Json.isPlain_bool, List.not_mem_nil, false_implies, implies_true, true_and, and_true]
    cases drawn.align with
    | none => exact Json.isPlain_null
    | some align => exact Json.isPlain_string align.letter
  | _ =>
    simp [Command.members, isPlain_numberForm, Json.isPlain_string, isPlain_colourForm]

/-- The text of commands has no control character but the line feed. -/
theorem plain_writeCommands (commands : List Command) :
    Json.Plain (writeCommands commands).toList := by
  have forms : ∀ form ∈ commands.map Command.form, form.IsPlain := by
    intro form member
    obtain ⟨command, -, rfl⟩ := List.mem_map.1 member
    exact isPlain_commandForm command
  rw [writeCommands, Form.text, String.toList_ofList]
  exact Json.isPlain_list forms 0

end Folio
