import Folio.Proofs.PlainLayout
import Folio.Proofs.ReadingFaults

/-!
# What the reader of commands complains about

A command that cannot be decoded is refused with what was found in it and what was wanted. The
latter is always said in words of the reader's own (`Cause.InOwnWords`), and so are the keys of
members. What was found is the name of an unknown call or alignment, a string that is quoted, or a
number.
-/

namespace Folio

/-! ## Values of members -/

namespace Json

/-- Whether a cause names what was wanted in words of its own. -/
def Cause.InOwnWords : Cause → Prop
  | .missingField name | .repeatedField name => Plain name.toList
  | .unknownVariant _ known => ∀ name ∈ known, Plain name.toList
  | .wrongKind _ wanted | .wrongValue _ wanted | .wrongLength _ wanted => Plain wanted.toList
  | .misspelt what _ => Plain what.toList
  | _ => True

/-- Whether a fault has a cause in words of its own. -/
def Fault.InOwnWords (fault : Fault) : Prop :=
  fault.cause.InOwnWords

theorem Cause.inOwnWords_of_isLexical {cause : Cause} (lexical : cause.IsLexical) :
    cause.InOwnWords := by
  cases cause <;> first | exact trivial | cases lexical

theorem Fault.inOwnWords_of_isLexical {fault : Fault} (lexical : fault.IsLexical) :
    fault.InOwnWords :=
  Cause.inOwnWords_of_isLexical lexical

theorem plain_toString (n : Nat) : Plain (toString n).toList := by
  rw [Nat.toString_eq_repr, Nat.repr, String.toList_ofList]
  exact plain_toDigits n

end Json

open Json (Cause Fault Value Slot Plain)

section Values

variable (value : Value)

theorem inOwnWords_wrongKind {α : Type} {wanted : String} (plain : Plain wanted.toList) :
    ErrorsIn Cause.InOwnWords (wrongKind value wanted : Except Cause α) :=
  errorsIn_error plain

theorem inOwnWords_numberOf : ErrorsIn Cause.InOwnWords (numberOf value) := by
  unfold numberOf
  split
  · exact errorsIn_ok _
  · exact inOwnWords_wrongKind _ (by decide)

theorem inOwnWords_textOf : ErrorsIn Cause.InOwnWords (textOf value) := by
  unfold textOf
  split
  · exact errorsIn_ok _
  · exact inOwnWords_wrongKind _ (by decide)

theorem inOwnWords_boolOf : ErrorsIn Cause.InOwnWords (boolOf value) := by
  unfold boolOf
  split
  · exact errorsIn_ok _
  · exact inOwnWords_wrongKind _ (by decide)

theorem inOwnWords_partOf : ErrorsIn Cause.InOwnWords (partOf value) := by
  have plain : Plain "u8".toList := by decide
  unfold partOf
  split
  · split
    · exact errorsIn_ok _
    · exact errorsIn_error plain
  · exact errorsIn_error plain
  · exact inOwnWords_wrongKind _ plain

theorem inOwnWords_sidesOf : ErrorsIn Cause.InOwnWords (sidesOf value) := by
  refine (inOwnWords_textOf value).bind fun letters => ?_
  split
  · exact errorsIn_ok _
  · have plain : Plain "border sides".toList := by decide
    exact errorsIn_error plain

theorem inOwnWords_alignOfLetter (letter : String) :
    ErrorsIn Cause.InOwnWords (alignOfLetter letter) := by
  unfold alignOfLetter
  split
  · exact errorsIn_ok _
  · have plain : ∀ name ∈ Align.all.map Align.letter, Plain name.toList := by decide
    exact errorsIn_error plain

theorem inOwnWords_nothingOf : ErrorsIn Cause.InOwnWords (nothingOf value) := by
  unfold nothingOf
  split
  · exact errorsIn_ok _
  · exact errorsIn_ok _
  · exact inOwnWords_wrongKind _ (by decide)

theorem inOwnWords_alignOf : ErrorsIn Cause.InOwnWords (alignOf value) := by
  unfold alignOf
  split
  · exact errorsIn_ok _
  · exact (inOwnWords_alignOfLetter _).map _
  · refine (inOwnWords_alignOfLetter _).bind fun align => ?_
    exact (inOwnWords_nothingOf _).bind fun _ => errorsIn_ok _
  · have plain : Plain "map with a single key".toList := by decide
    exact errorsIn_error plain
  · exact inOwnWords_wrongKind _ (by decide)

end Values

/-! ## Records -/

namespace Json

/-- Whether a slot has a key in words of its own, and fails in such words. -/
structure Slot.InOwnWords {σ : Type} (slot : Slot σ) : Prop where
  key : Plain slot.key.toList
  fill : ∀ draft value, ErrorsIn Cause.InOwnWords (slot.fill draft value)

section Records

variable {σ α : Type} {slots : List (Slot σ)}

theorem Slot.inOwnWords_of {key : String} {get : σ → Option α} {set : σ → α → σ}
    {read : Value → Except Cause α} (plain : Plain key.toList)
    (reads : ∀ value, ErrorsIn Cause.InOwnWords (read value)) :
    (Slot.of key get set read).InOwnWords :=
  ⟨plain, fun _ value => (reads value).map _⟩

theorem inOwnWords_fillMembers (each : ∀ slot ∈ slots, slot.InOwnWords) (draft : σ)
    (members : List (String × Value)) :
    ErrorsIn Cause.InOwnWords (fillMembers slots draft members) := by
  induction members generalizing draft with
  | nil => exact errorsIn_ok _
  | cons entry rest ih =>
    obtain ⟨key, value⟩ := entry
    rw [fillMembers]
    split
    · exact ih draft
    · rename_i slot found
      have known := each slot (List.mem_of_find?_eq_some found)
      split
      · have same := List.find?_some found
        rw [beq_iff_eq] at same
        exact errorsIn_error (same ▸ known.key)
      · exact (known.fill draft value).bind ih

theorem plain_elementCount (n : Nat) : Plain (elementCount n).toList := by
  rw [elementCount, String.toList_append, plain_append]
  refine ⟨plain_toString n, ?_⟩
  split <;> decide

theorem inOwnWords_fillItems {name : String} (plain : Plain name.toList)
    (each : ∀ slot ∈ slots, slot.InOwnWords) (filled : Nat) (draft : σ) (items : List Value) :
    ErrorsIn Cause.InOwnWords (fillItems name filled draft slots items) := by
  induction slots generalizing filled draft items with
  | nil =>
    cases items with
    | nil => exact errorsIn_ok _
    | cons item items =>
      refine errorsIn_error ?_
      change Plain (elementCount _ ++ " in sequence").toList
      rw [String.toList_append, plain_append]
      exact ⟨plain_elementCount _, by decide⟩
  | cons slot slots ih =>
    obtain ⟨first, others⟩ := List.forall_mem_cons.1 each
    cases items with
    | nil =>
      refine errorsIn_error ?_
      change Plain (name ++ " with " ++ elementCount _).toList
      rw [String.toList_append, String.toList_append, plain_append, plain_append]
      exact ⟨⟨plain, by decide⟩, plain_elementCount _⟩
    | cons item items =>
      exact (first.fill draft item).bind fun draft => ih others _ draft items

theorem inOwnWords_required {key : String} (plain : Plain key.toList) (content : Option α) :
    ErrorsIn Cause.InOwnWords (required key content) := by
  cases content with
  | none => exact errorsIn_error plain
  | some a => exact errorsIn_ok a

end Records

end Json

/-! ## Colours and commands -/

theorem inOwnWords_colourSlots : ∀ slot ∈ ColourDraft.slots, slot.InOwnWords := by
  simp only [ColourDraft.slots, List.forall_mem_cons, List.not_mem_nil, false_imp_iff,
    implies_true, and_true]
  exact ⟨Slot.inOwnWords_of (by decide) inOwnWords_partOf,
    Slot.inOwnWords_of (by decide) inOwnWords_partOf,
    Slot.inOwnWords_of (by decide) inOwnWords_partOf⟩

theorem inOwnWords_colour (draft : ColourDraft) : ErrorsIn Cause.InOwnWords draft.colour := by
  refine (Json.inOwnWords_required (by decide) draft.red).bind fun red => ?_
  refine (Json.inOwnWords_required (by decide) draft.green).bind fun green => ?_
  exact (Json.inOwnWords_required (by decide) draft.blue).bind fun blue => errorsIn_ok _

theorem inOwnWords_colourOf (value : Value) : ErrorsIn Cause.InOwnWords (colourOf value) := by
  unfold colourOf
  split
  · exact (Json.inOwnWords_fillMembers inOwnWords_colourSlots _ _).bind inOwnWords_colour
  · exact (Json.inOwnWords_fillItems (by decide) inOwnWords_colourSlots _ _ _).bind
      inOwnWords_colour
  · exact inOwnWords_wrongKind _ (by decide)

theorem inOwnWords_commandSlots (call : Call) :
    ∀ slot ∈ CommandDraft.slots call, slot.InOwnWords := by
  have number : ∀ {key : String} {get : CommandDraft → Option Float32}
      {set : CommandDraft → Float32 → CommandDraft}, Plain key.toList →
      (Slot.of key get set numberOf).InOwnWords :=
    fun plain => Slot.inOwnWords_of plain inOwnWords_numberOf
  have text : ∀ {key : String} {get : CommandDraft → Option String}
      {set : CommandDraft → String → CommandDraft}, Plain key.toList →
      (Slot.of key get set textOf).InOwnWords :=
    fun plain => Slot.inOwnWords_of plain inOwnWords_textOf
  cases call <;>
    simp only [CommandDraft.slots, CommandDraft.widthSlot, CommandDraft.heightSlot,
      List.forall_mem_cons, List.not_mem_nil, false_imp_iff, implies_true, and_true]
  case setTextColour => exact Slot.inOwnWords_of (by decide) inOwnWords_colourOf
  case setDrawColour => exact Slot.inOwnWords_of (by decide) inOwnWords_colourOf
  case setFillColour => exact Slot.inOwnWords_of (by decide) inOwnWords_colourOf
  case setFont => exact ⟨text (by decide), text (by decide), number (by decide)⟩
  case moveTo => exact ⟨number (by decide), number (by decide)⟩
  case cell =>
    exact ⟨number (by decide), number (by decide), text (by decide),
      Slot.inOwnWords_of (by decide) inOwnWords_sidesOf,
      Slot.inOwnWords_of (by decide) inOwnWords_alignOf,
      Slot.inOwnWords_of (by decide) inOwnWords_boolOf⟩
  case newLine => exact number (by decide)
  case advance => exact number (by decide)

theorem inOwnWords_command (draft : CommandDraft) (call : Call) :
    ErrorsIn Cause.InOwnWords (draft.command call) := by
  cases call
  case setTextColour | setDrawColour | setFillColour =>
    exact (Json.inOwnWords_required (by decide) _).bind fun _ => errorsIn_ok _
  case setFont =>
    refine (Json.inOwnWords_required (by decide) _).bind fun _ => ?_
    refine (Json.inOwnWords_required (by decide) _).bind fun _ => ?_
    exact (Json.inOwnWords_required (by decide) _).bind fun _ => errorsIn_ok _
  case moveTo =>
    refine (Json.inOwnWords_required (by decide) _).bind fun _ => ?_
    exact (Json.inOwnWords_required (by decide) _).bind fun _ => errorsIn_ok _
  case cell =>
    refine (Json.inOwnWords_required (by decide) _).bind fun _ => ?_
    refine (Json.inOwnWords_required (by decide) _).bind fun _ => ?_
    refine (Json.inOwnWords_required (by decide) _).bind fun _ => ?_
    refine (Json.inOwnWords_required (by decide) _).bind fun _ => ?_
    exact (Json.inOwnWords_required (by decide) _).bind fun _ => errorsIn_ok _
  case newLine | advance =>
    exact (Json.inOwnWords_required (by decide) _).bind fun _ => errorsIn_ok _

theorem inOwnWords_commandOfMembers (call : Call) (members : List (String × Value)) :
    ErrorsIn Cause.InOwnWords (commandOfMembers call members) :=
  (Json.inOwnWords_fillMembers (inOwnWords_commandSlots call) _ _).bind fun draft =>
    inOwnWords_command draft call

theorem inOwnWords_commandOfItems (call : Call) (items : List Value) :
    ErrorsIn Cause.InOwnWords (commandOfItems call items) := by
  have plain : Plain call.recordName.toList := by
    cases call <;> decide
  exact (Json.inOwnWords_fillItems plain (inOwnWords_commandSlots call) _ _ _).bind fun draft =>
    inOwnWords_command draft call

/-! ## Texts -/

theorem inOwnWords_value (depth : Nat) (text : List Char) :
    ErrorsIn Fault.InOwnWords (Json.value depth text) :=
  (Json.isLexical_value depth text).imp fun _ => Fault.inOwnWords_of_isLexical

theorem inOwnWords_colon (text : List Char) : ErrorsIn Fault.InOwnWords (Json.colon text) :=
  (Json.isLexical_colon text).imp fun _ => Fault.inOwnWords_of_isLexical

theorem inOwnWords_wrongKindFault {wanted : String} (plain : Plain wanted.toList)
    (text : List Char) : (wrongKindFault wanted text).InOwnWords := by
  unfold wrongKindFault
  split
  · exact plain
  · exact plain
  · split
    · exact plain
    · rename_i failed
      exact inOwnWords_value 0 _ _ failed

theorem inOwnWords_readCall (text : List Char) : ErrorsIn Fault.InOwnWords (readCall text) := by
  unfold readCall
  split
  · refine ((Json.isLexical_stringBody _).imp fun _ => Fault.inOwnWords_of_isLexical).bind ?_
    rintro ⟨name, rest, shorter⟩
    dsimp only
    split
    · exact errorsIn_ok _
    · have plain : ∀ name ∈ Call.all.map Call.name, Plain name.toList := by decide
      exact errorsIn_error plain
  · exact errorsIn_error (inOwnWords_wrongKindFault (by decide) text)

theorem inOwnWords_readCommandMember (depth : Nat) (before : CommandMembers) (key : String)
    (text : List Char) : ErrorsIn Fault.InOwnWords (readCommandMember depth before key text) := by
  unfold readCommandMember
  split
  · split
    · have plain : Plain "op".toList := by decide
      exact errorsIn_error plain
    · refine (inOwnWords_colon text).bind fun behind => ?_
      exact (inOwnWords_readCall _).bind fun _ => errorsIn_ok _
  · refine (inOwnWords_colon text).bind fun behind => ?_
    exact (inOwnWords_value depth _).bind fun _ => errorsIn_ok _

theorem inOwnWords_placedAfterItem {text : List Char} {decoded : Except Cause Command}
    (known : ErrorsIn Cause.InOwnWords decoded) (rest : Json.Rest text) :
    ErrorsIn Fault.InOwnWords (placedAfterItem decoded rest) := by
  cases decoded with
  | ok command => exact errorsIn_ok _
  | error cause => exact errorsIn_error (known cause rfl)

theorem inOwnWords_readCommand (depth : Nat) (text : List Char) :
    ErrorsIn Fault.InOwnWords (readCommand depth text) := by
  have plain : Plain "op".toList := by decide
  have lexical : ∀ fault : Fault, fault.IsLexical → fault.InOwnWords :=
    fun _ => Fault.inOwnWords_of_isLexical
  unfold readCommand
  split
  · refine (Json.errorsIn_members lexical (inOwnWords_readCommandMember depth) _ _ _).bind ?_
    rintro ⟨⟨call, members⟩, rest, shorter⟩
    dsimp only
    split
    · exact errorsIn_error plain
    · exact inOwnWords_placedAfterItem (inOwnWords_commandOfMembers _ _) _
  · split
    · exact errorsIn_error trivial
    · exact errorsIn_error plain
    · refine (inOwnWords_readCall _).bind fun call => ?_
      refine (Json.errorsIn_items lexical (inOwnWords_value depth) _ _).bind fun items => ?_
      exact inOwnWords_placedAfterItem (inOwnWords_commandOfItems _ _) _
  · exact errorsIn_error (inOwnWords_wrongKindFault (by decide) text)

theorem inOwnWords_readCommandList (text : List Char) :
    ErrorsIn Fault.InOwnWords (readCommandList text) := by
  unfold readCommandList
  split
  · exact (Json.errorsIn_items (fun _ => Fault.inOwnWords_of_isLexical)
      (inOwnWords_readCommand _) _ _).bind fun _ => errorsIn_ok _
  · exact errorsIn_error (inOwnWords_wrongKindFault (by decide) text)

/-- The reader of commands complains in words of its own. -/
theorem inOwnWords_readCommands (text : String) :
    ErrorsIn (·.cause.InOwnWords) (readCommands text) := by
  refine ErrorsIn.mapError (P := Fault.InOwnWords) ?_ fun _ => id
  refine (inOwnWords_readCommandList _).bind fun commands => ?_
  refine ErrorsIn.bind ?_ fun _ => errorsIn_ok _
  exact (Json.isLexical_finished _).imp fun _ => Fault.inOwnWords_of_isLexical

end Folio
