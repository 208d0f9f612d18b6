import Mathlib.Data.Nat.Init
import Folio.Draw.Reading
import Folio.Rule.Document

/-!
# What readers complain about

A reader that fails gives a cause, and causes are of few kinds. What reads the words and the values
of a JSON text says nothing about what it read (`Cause.IsLexical`): a list has the faults of its
items and an object those of its members, beside faults of the letters between them. So a style
document is refused without a word of its own (`isLexical_readDocument`).
-/

namespace Folio

/-! ## The errors of a computation -/

section Errors

variable {ε α β : Type} {P Q : ε → Prop} {result : Except ε α}

/-- Whether a computation that fails does so with an error of a kind. -/
def ErrorsIn (P : ε → Prop) (result : Except ε α) : Prop :=
  ∀ error, result = .error error → P error

theorem errorsIn_ok (a : α) : ErrorsIn P (.ok a : Except ε α) := by
  rintro _ ⟨⟩

theorem errorsIn_error {error : ε} (known : P error) : ErrorsIn P (.error error : Except ε α) := by
  rintro _ ⟨⟩
  exact known

theorem ErrorsIn.bind (first : ErrorsIn P result) {next : α → Except ε β}
    (others : ∀ a, ErrorsIn P (next a)) : ErrorsIn P (result >>= next) := by
  cases result with
  | error error => exact errorsIn_error (first error rfl)
  | ok a => exact others a

theorem ErrorsIn.map (first : ErrorsIn P result) (f : α → β) : ErrorsIn P (result.map f) := by
  cases result with
  | error error => exact errorsIn_error (first error rfl)
  | ok a => exact errorsIn_ok _

theorem ErrorsIn.mapError {ε' : Type} {Q : ε' → Prop} (known : ErrorsIn P result) {f : ε → ε'}
    (carried : ∀ error, P error → Q (f error)) : ErrorsIn Q (result.mapError f) := by
  cases result with
  | error error => exact errorsIn_error (carried error (known error rfl))
  | ok a => exact errorsIn_ok a

/-- Errors that are turned into others of a kind, whatever they were. -/
theorem errorsIn_mapError {ε' : Type} {Q : ε' → Prop} {f : ε → ε'} (known : ∀ error, Q (f error)) :
    ErrorsIn Q (result.mapError f) :=
  ErrorsIn.mapError (P := fun _ => True) (fun _ _ => trivial) fun error _ => known error

theorem ErrorsIn.imp (weaker : ∀ error, P error → Q error) (known : ErrorsIn P result) :
    ErrorsIn Q result :=
  fun error failed => weaker error (known error failed)

end Errors

namespace Json

/-- Whether a cause is about the letters of a text and not about what they say. -/
def Cause.IsLexical : Cause → Prop
  | .missingField _ | .repeatedField _ | .unknownVariant _ _ | .wrongKind _ _ | .wrongValue _ _
  | .wrongLength _ _ | .misspelt _ _ => False
  | _ => True

/-- Whether a fault has a lexical cause. -/
def Fault.IsLexical (fault : Fault) : Prop :=
  fault.cause.IsLexical

/-! ## Words -/

theorem isLexical_readWord (word text : List Char) :
    ErrorsIn Fault.IsLexical (readWord word text) := by
  induction word generalizing text with
  | nil => exact errorsIn_ok _
  | cons w word ih =>
    cases text with
    | nil => exact errorsIn_error trivial
    | cons c text =>
      rw [readWord]
      split
      · exact (ih text).map _
      · exact errorsIn_error trivial

theorem isLexical_codeUnit (text : List Char) : ErrorsIn Fault.IsLexical (codeUnit text) := by
  unfold codeUnit
  split
  · split
    · exact errorsIn_ok _
    · exact errorsIn_error trivial
  · split <;> exact errorsIn_error trivial

theorem isLexical_unicodeEscape (text : List Char) :
    ErrorsIn Fault.IsLexical (unicodeEscape text) := by
  refine (isLexical_codeUnit text).bind ?_
  rintro ⟨unit, rest, shorter⟩
  dsimp only
  split
  · exact errorsIn_error trivial
  split
  · split
    · exact errorsIn_error trivial
    · exact errorsIn_error trivial
    · refine (isLexical_codeUnit _).bind ?_
      rintro ⟨trailing, rest, shorter⟩
      dsimp only
      split
      · exact errorsIn_ok _
      · exact errorsIn_error trivial
    · exact errorsIn_error trivial
    · exact errorsIn_error trivial
  · exact errorsIn_ok _

theorem isLexical_escape (text : List Char) : ErrorsIn Fault.IsLexical (escape text) := by
  unfold escape
  split
  · exact errorsIn_error trivial
  · exact (isLexical_unicodeEscape _).map _
  · split
    · exact errorsIn_ok _
    · exact errorsIn_error trivial

theorem isLexical_stringChars (text : List Char) :
    ErrorsIn Fault.IsLexical (stringChars text) := by
  fun_induction stringChars text with
  | case1 => exact errorsIn_error trivial
  | case2 => exact errorsIn_ok _
  | case3 rest ih =>
    refine (isLexical_escape rest).bind ?_
    rintro ⟨c, rest, shorter⟩
    exact (ih rest shorter).bind fun _ => errorsIn_ok _
  | case4 => exact errorsIn_error trivial
  | case5 c rest _ _ _ ih => exact ih.bind fun _ => errorsIn_ok _

theorem isLexical_stringBody (text : List Char) : ErrorsIn Fault.IsLexical (stringBody text) :=
  (isLexical_stringChars text).map _

/-! ## Numbers -/

theorem isLexical_wholePart (text : List Char) : ErrorsIn Fault.IsLexical (wholePart text) := by
  unfold wholePart
  split
  · exact errorsIn_error trivial
  split
  · split
    · split
      · exact errorsIn_error trivial
      · exact errorsIn_ok _
    · exact errorsIn_ok _
  split
  · exact errorsIn_ok _
  · exact errorsIn_error trivial

theorem isLexical_fractionPart (text : List Char) :
    ErrorsIn Fault.IsLexical (fractionPart text) := by
  unfold fractionPart
  split
  · split
    · split <;> exact errorsIn_error trivial
    · exact errorsIn_ok _
  · exact errorsIn_ok _

theorem isLexical_exponentPart (text : List Char) :
    ErrorsIn Fault.IsLexical (exponentPart text) := by
  unfold exponentPart
  split
  · exact errorsIn_ok _
  split
  · dsimp only
    split
    · split <;> exact errorsIn_error trivial
    · exact errorsIn_ok _
  · exact errorsIn_ok _

theorem isLexical_number (negative : Bool) (text : List Char) :
    ErrorsIn Fault.IsLexical (number negative text) := by
  refine (isLexical_wholePart text).bind fun whole => ?_
  refine (isLexical_fractionPart _).bind fun fraction => ?_
  refine (isLexical_exponentPart _).bind fun exponent => ?_
  dsimp only
  split
  · exact errorsIn_ok _
  · exact errorsIn_error trivial

/-! ## Lists and objects -/

theorem isLexical_colon (text : List Char) : ErrorsIn Fault.IsLexical (colon text) := by
  unfold colon
  split
  · exact errorsIn_error trivial
  split
  · exact errorsIn_ok _
  · exact errorsIn_error trivial

section Loops

variable {α σ : Type} {P : Fault → Prop} (lexical : ∀ fault, fault.IsLexical → P fault)
include lexical

/-- The faults of a list are those of its items and lexical ones. -/
theorem errorsIn_items {item : Reader α} (parts : ∀ text, ErrorsIn P (item text)) (first : Bool)
    (text : List Char) : ErrorsIn P (items item first text) := by
  fun_induction items item first text with
  | case2 => exact errorsIn_ok _
  | case3 _ _ _ _ _ _ ih =>
    refine (parts _).bind ?_
    rintro ⟨x, rest, shorter⟩
    exact (ih rest shorter).bind fun _ => errorsIn_ok _
  | case6 _ _ _ _ _ _ _ _ _ ih =>
    refine (parts _).bind ?_
    rintro ⟨x, rest, shorter⟩
    exact (ih rest shorter).bind fun _ => errorsIn_ok _
  | _ => exact errorsIn_error (lexical _ trivial)

/-- The faults of an object are those of its members and lexical ones. -/
theorem errorsIn_members {member : σ → String → Reader σ}
    (parts : ∀ state key text, ErrorsIn P (member state key text)) (state : σ) (first : Bool)
    (text : List Char) : ErrorsIn P (members member state first text) := by
  have keys : ∀ text, ErrorsIn P (stringBody text) := fun text =>
    (isLexical_stringBody text).imp lexical
  fun_induction members member state first text with
  | case2 => exact errorsIn_ok _
  | case3 _ _ _ _ _ _ ih =>
    refine (keys _).bind ?_
    rintro ⟨key, rest, shorter⟩
    refine (parts _ key rest).bind ?_
    rintro ⟨state, behind, shorter'⟩
    exact (ih rest shorter state behind shorter').bind fun _ => errorsIn_ok _
  | case6 _ _ _ _ _ _ _ _ _ _ _ ih =>
    refine (keys _).bind ?_
    rintro ⟨key, rest, shorter⟩
    refine (parts _ key rest).bind ?_
    rintro ⟨state, behind, shorter'⟩
    exact (ih rest shorter state behind shorter').bind fun _ => errorsIn_ok _
  | _ => exact errorsIn_error (lexical _ trivial)

end Loops

/-! ## Values -/

theorem isLexical_valueWith {nested : Option (Reader Value)}
    (inner : ∀ item ∈ nested, ∀ text, ErrorsIn Fault.IsLexical (item text)) (text : List Char) :
    ErrorsIn Fault.IsLexical (valueWith nested text) := by
  unfold valueWith
  split
  · exact errorsIn_error trivial
  split
  · exact (isLexical_readWord _ _).map _
  split
  · exact (isLexical_readWord _ _).map _
  split
  · exact (isLexical_readWord _ _).map _
  split
  · exact (isLexical_number _ _).map _
  split
  · exact (isLexical_number _ _).map _
  split
  · exact (isLexical_stringBody _).map _
  split
  · split
    · exact errorsIn_error trivial
    · exact (errorsIn_items (fun _ => id) (inner _ rfl) true _).map _
  split
  · split
    · exact errorsIn_error trivial
    · refine (errorsIn_members (fun _ => id) (fun before key text => ?_) [] true _).map _
      refine (isLexical_colon text).bind fun behind => ?_
      exact (inner _ rfl _).bind fun _ => errorsIn_ok _
  · exact errorsIn_error trivial

theorem isLexical_value (depth : Nat) (text : List Char) :
    ErrorsIn Fault.IsLexical (value depth text) := by
  induction depth generalizing text with
  | zero =>
    refine isLexical_valueWith ?_ text
    rintro _ ⟨⟩
  | succ depth ih =>
    refine isLexical_valueWith ?_ text
    rintro _ ⟨⟩
    exact ih

theorem isLexical_finished (text : List Char) : ErrorsIn Fault.IsLexical (finished text) := by
  unfold finished
  split
  · exact errorsIn_ok _
  · exact errorsIn_error trivial

end Json

/-! ## Style documents -/

/-- Whether a document error is about letters or shape, and not about what a document says. -/
def DocumentError.IsLexical : DocumentError → Prop
  | .text error => error.cause.IsLexical
  | .shape => True

/-- A style document is refused without a word of its own. -/
theorem isLexical_readDocument (text : String) :
    ErrorsIn DocumentError.IsLexical (readDocument text) := by
  unfold readDocument
  dsimp only
  split
  case h_1 failed => exact errorsIn_error (Json.isLexical_value _ _ _ failed)
  case h_2 =>
    split
    · exact errorsIn_error trivial
    · split
      case h_1 failed => exact errorsIn_error (Json.isLexical_finished _ _ failed)
      case h_2 => exact errorsIn_ok _

end Folio
