import Folio.Proofs.CommandText

/-!
# Commands written and read back

What is written for a command is a text of an object (`Command.values`), so it is read by the values
of its members, whatever strings they hold. Everything but the numbers comes back as it was. A
number is the nearest to the decimal that is written for it, and comes back as this decimal computed
in 64 bits and rounded to 32 (`readCommands_writeCommands`). A command with a number that has no
digits is refused.
-/

namespace Folio

open Json (Value Spells)

/-! ## Numbers of commands -/

/-- The numbers of a command. -/
def Command.numbers : Command → List Float32
  | .setTextColour _ | .setDrawColour _ | .setFillColour _ => []
  | .setFont _ _ size => [size]
  | .moveTo x y => [x, y]
  | .cell drawn => [drawn.width, drawn.height]
  | .newLine height => [height]
  | .advance width => [width]

/-- A command with each number replaced. -/
def Command.mapNumbers (f : Float32 → Float32) : Command → Command
  | .setTextColour colour => .setTextColour colour
  | .setDrawColour colour => .setDrawColour colour
  | .setFillColour colour => .setFillColour colour
  | .setFont family flags size => .setFont family flags (f size)
  | .moveTo x y => .moveTo (f x) (f y)
  | .cell drawn => .cell { drawn with width := f drawn.width, height := f drawn.height }
  | .newLine height => .newLine (f height)
  | .advance width => .advance (f width)

/-- Whether all numbers of a command are finite. -/
def Command.IsFinite (command : Command) : Prop :=
  ∀ x ∈ command.numbers, x.isFinite = true

instance (command : Command) : Decidable command.IsFinite :=
  inferInstanceAs (Decidable (∀ x ∈ command.numbers, x.isFinite = true))

/-! ## Values of what is written -/

/-- The value of the text that is written for a number. -/
def numberValue (x : Float32) : Value :=
  if x.isFinite then
    match Json.numberOfText? (Number.Layout.jsonSingle.single x) with
    | some n => .number n
    | none => .null
  else .null

/-- The value of the text that is written for a part of a colour. -/
def partValue (part : UInt8) : Value :=
  .number (.natural part.toNat)

/-- The value of the text that is written for a colour. -/
def Colour.value (colour : Colour) : Value :=
  .object [("r", partValue colour.red), ("g", partValue colour.green), ("b", partValue colour.blue)]

/-- The values of the members that are written for a command beside its name. -/
def Command.values : Command → List (String × Value)
  | .setTextColour colour | .setDrawColour colour | .setFillColour colour =>
    [("color", colour.value)]
  | .setFont family flags size =>
    [("family", .string family), ("style", .string flags), ("size", numberValue size)]
  | .moveTo x y => [("x", numberValue x), ("y", numberValue y)]
  | .cell drawn =>
    [("width", numberValue drawn.width), ("height", numberValue drawn.height),
      ("text", .string drawn.text), ("border", .string drawn.border.letters),
      ("align", match drawn.align with
        | some align => .string align.letter
        | none => .null),
      ("fill", .bool drawn.fill)]
  | .newLine height => [("height", numberValue height)]
  | .advance width => [("width", numberValue width)]

theorem spells_numberForm (brackets : Nat) (x : Float32) :
    Spells brackets (numberForm x) (numberValue x) := by
  rw [numberForm, numberValue]
  split
  · rename_i finite
    obtain ⟨y, numeral, read, -⟩ := exists_reread finite
    rw [read]
    exact Json.spells_number brackets numeral
  · exact Json.spells_null brackets

theorem spells_partForm (brackets : Nat) (part : UInt8) :
    Spells brackets (partForm part) (partValue part) := by
  refine Json.spells_number brackets (Json.numberText_natural ?_)
  have below : part.toNat < 2 ^ 8 := part.toNat_lt
  have most : Json.maxSignificand = 2 ^ 64 - 1 := rfl
  omega

theorem spells_colourForm (brackets : Nat) (colour : Colour) :
    Spells (brackets + 1) colour.form colour.value :=
  Json.spells_object (.cons ⟨rfl, spells_partForm brackets _⟩
    (.cons ⟨rfl, spells_partForm brackets _⟩ (.cons ⟨rfl, spells_partForm brackets _⟩ .nil)))

/-- The members of a command are written by texts of their values. -/
theorem spells_members (brackets : Nat) (command : Command) :
    List.Forall₂ (fun entry x => entry.1 = x.1 ∧ Spells (brackets + 1) entry.2 x.2)
      command.members command.values := by
  have number : ∀ x, Spells (brackets + 1) (numberForm x) (numberValue x) :=
    spells_numberForm (brackets + 1)
  have string : ∀ s, Spells (brackets + 1) (.string s) (.string s) :=
    Json.spells_string (brackets + 1)
  cases command with
  | setTextColour colour => exact .cons ⟨rfl, spells_colourForm brackets colour⟩ .nil
  | setDrawColour colour => exact .cons ⟨rfl, spells_colourForm brackets colour⟩ .nil
  | setFillColour colour => exact .cons ⟨rfl, spells_colourForm brackets colour⟩ .nil
  | setFont family flags size =>
    exact .cons ⟨rfl, string _⟩ (.cons ⟨rfl, string _⟩ (.cons ⟨rfl, number _⟩ .nil))
  | moveTo x y => exact .cons ⟨rfl, number _⟩ (.cons ⟨rfl, number _⟩ .nil)
  | cell drawn =>
    refine .cons ⟨rfl, number _⟩ (.cons ⟨rfl, number _⟩ (.cons ⟨rfl, string _⟩
      (.cons ⟨rfl, string _⟩ (.cons ⟨rfl, ?_⟩
        (.cons ⟨rfl, Json.spells_bool (brackets + 1) _⟩ .nil)))))
    cases drawn.align with
    | none => exact Json.spells_null (brackets + 1)
    | some align => exact string align.letter
  | newLine height => exact .cons ⟨rfl, number _⟩ .nil
  | advance width => exact .cons ⟨rfl, number _⟩ .nil

/-! ## Values read back -/

theorem numberOf_numberValue {x : Float32} (finite : x.isFinite = true) :
    numberOf (numberValue x) = .ok (reread x) := by
  obtain ⟨y, -, read, -, same⟩ := exists_reread finite
  rw [numberValue, if_pos finite, read, same]
  rfl

theorem numberOf_numberValue_of_not {x : Float32} (infinite : x.isFinite = false) :
    numberOf (numberValue x) = .error (.wrongKind .null "f32") := by
  rw [numberValue, infinite]
  rfl

theorem partOf_partValue (part : UInt8) : partOf (partValue part) = .ok part := by
  rw [partValue, partOf, if_pos part.toNat_lt, UInt8.ofNat_toNat]

theorem colourOf_value (colour : Colour) : colourOf colour.value = .ok colour := by
  simp [colourOf, Colour.value, Json.fillMembers, ColourDraft.slots, Json.Slot.of, partOf_partValue,
    ColourDraft.colour, Json.required, bind, Except.bind, Except.map, pure, Except.pure]

theorem sidesOf_letters (sides : Sides) : sidesOf (.string sides.letters) = .ok sides := by
  simp [sidesOf, textOf, Sides.parse?_letters, bind, Except.bind]

theorem alignOfLetter_letter (align : Align) : alignOfLetter align.letter = .ok align := by
  cases align <;> decide

section

-- Filling a draft slot by slot and taking the command out of it again.
attribute [local simp] commandOfMembers Json.fillMembers CommandDraft.slots CommandDraft.widthSlot
  CommandDraft.heightSlot Json.Slot.of CommandDraft.command Json.required Command.call
  Command.values Command.numbers Command.mapNumbers Command.IsFinite Except.toOption Except.bind
  Except.map Except.pure bind pure numberOf_numberValue numberOf_numberValue_of_not

/-- The values of a command come to the command with its numbers read from their digits, if all of
them have digits. -/
theorem commandOfMembers_values (command : Command) :
    (commandOfMembers command.call command.values).toOption =
      if command.IsFinite then some (command.mapNumbers reread) else none := by
  cases command with
  | setTextColour colour => simp [colourOf_value]
  | setDrawColour colour => simp [colourOf_value]
  | setFillColour colour => simp [colourOf_value]
  | setFont family flags size => cases finite : size.isFinite <;> simp [textOf, finite]
  | moveTo x y => cases finite : x.isFinite <;> cases finite' : y.isFinite <;> simp [*]
  | cell drawn =>
    have border := sidesOf_letters drawn.border
    have align : alignOf (match drawn.align with
        | some align => .string align.letter
        | none => .null) = .ok drawn.align := by
      cases drawn.align with
      | none => rfl
      | some align => simp [alignOf, alignOfLetter_letter]
    cases finite : drawn.width.isFinite <;> cases finite' : drawn.height.isFinite <;>
      simp [textOf, boolOf, *]
  | newLine height => cases finite : height.isFinite <;> simp [finite]
  | advance width => cases finite : width.isFinite <;> simp [finite]

end

theorem ofName?_name (call : Call) : Call.ofName? call.name = some call := by
  cases call <;> decide

/-- No member that is written for a command beside its name has the key of the name. -/
theorem key_values (command : Command) : ∀ x ∈ command.values, x.1 ≠ "op" := by
  cases command <;> simp [Command.values]

theorem foldlM_addCommandMember {members : List (String × Value)}
    (others : ∀ x ∈ members, x.1 ≠ "op") (before : CommandMembers) :
    members.foldlM addCommandMember before = some (before.1, members.reverse ++ before.2) := by
  induction members generalizing before with
  | nil => rfl
  | cons x members ih =>
    have step : addCommandMember before x = some (before.1, x :: before.2) :=
      if_neg (others x List.mem_cons_self)
    rw [List.foldlM_cons, step, List.reverse_cons, List.append_assoc]
    exact ih (fun y member => others y (List.mem_cons_of_mem x member)) (before.1, x :: before.2)

/-- The name of a call is taken once, whatever was read before. -/
theorem addCommandMember_name (call : Call) (others : List (String × Value)) :
    addCommandMember (none, others) ("op", .string call.name) = some (some call, others) := by
  rw [addCommandMember, if_pos rfl, callOf?, ofName?_name]
  rfl

/-- The object that is written for a command comes to the command with its numbers read from their
digits. -/
theorem commandOfObject?_values (command : Command) :
    commandOfObject? (("op", .string command.call.name) :: command.values) =
      if command.IsFinite then some (command.mapNumbers reread) else none := by
  rw [commandOfObject?, List.foldlM_cons, addCommandMember_name]
  dsimp only [Option.bind_eq_bind, Option.bind_some]
  rw [foldlM_addCommandMember (key_values command), Option.bind_some, List.append_nil]
  dsimp only [Option.bind_some]
  rw [List.reverse_reverse, commandOfMembers_values]

open Json (ReadsText BracketText)

/-- A command is read from what is written for it, at any depth, with its numbers read from their
digits. -/
theorem readsText_form (command : Command) (depth : Nat) :
    ReadsText (readCommand (Json.maxDepth - 2)) (command.form.pretty depth)
      (if command.IsFinite then some (command.mapNumbers reread) else none) := by
  have members : List.Forall₂
      (fun (entry : String × Json.Form) x => entry.1 = x.1 ∧ Spells 125 entry.2 x.2)
      (("op", .string command.call.name) :: command.members)
      (("op", .string command.call.name) :: command.values) :=
    .cons ⟨rfl, Json.spells_string 125 command.call.name⟩ (spells_members 124 command)
  rw [← commandOfObject?_values]
  exact readsText_readCommand (Json.bracketText_object_of_spells members depth)

/-- Written commands are read back one after the other with their numbers read from their digits,
up to the first that has a number without digits. -/
theorem readCommands_writeCommands_toOption (commands : List Command) :
    (readCommands (writeCommands commands)).toOption =
      commands.mapM fun command =>
        if command.IsFinite then some (command.mapNumbers reread) else none := by
  let readBack (command : Command) : Option Command :=
    if command.IsFinite then some (command.mapNumbers reread) else none
  have each : List.Forall₂ (fun form result => ∀ depth,
      ReadsText (readCommand (Json.maxDepth - 2)) (form.pretty depth) result)
      (commands.map Command.form) (commands.map readBack) := by
    rw [List.forall₂_map_left_iff, List.forall₂_map_right_iff, List.forall₂_same]
    exact fun command _ => readsText_form command
  have bracket : BracketText '[' ']' (ReadsText (readCommand (Json.maxDepth - 2)))
      ((commandsForm commands).pretty 0) (commands.map readBack) := by
    refine (Json.bracketText_list 0 (commands.map Command.form)).relate ?_ each
    rintro text form result rfl read
    exact read 1
  have read := readCommands_toOption Json.blanks_nil Json.blanks_nil bracket
  rw [List.nil_append, List.append_nil, List.mapM_map] at read
  exact read

theorem mapM_ite {α β : Type} (p : α → Prop) [DecidablePred p] (f : α → β) (xs : List α) :
    (xs.mapM fun x => if p x then some (f x) else none) =
      if ∀ x ∈ xs, p x then some (xs.map f) else none := by
  induction xs with
  | nil => rfl
  | cons x xs ih =>
    rw [List.mapM_cons, ih]
    by_cases first : p x
    · by_cases others : ∀ x ∈ xs, p x
      · rw [if_pos first, if_pos others, if_pos (List.forall_mem_cons.2 ⟨first, others⟩)]
        rfl
      · rw [if_pos first, if_neg others, if_neg fun all => others (List.forall_mem_cons.1 all).2]
        rfl
    · rw [if_neg first, if_neg fun all => first (List.forall_mem_cons.1 all).1]
      rfl

/-- Commands come back from their text exactly if all their numbers are finite. They come back as
they were but for the numbers. Each of these is the nearest to the decimal that was written for it,
is read as that decimal computed in 64 bits, and comes back as the only 32-bit number that this is
rounded to. -/
theorem readCommands_writeCommands (commands : List Command) :
    ((∃ read, readCommands (writeCommands commands) = .ok read) ↔
      ∀ command ∈ commands, command.IsFinite) ∧
    ∀ read, readCommands (writeCommands commands) = .ok read →
      read = commands.map (·.mapNumbers reread) ∧
      ∀ command ∈ commands, ∀ x ∈ command.numbers,
        Number.Format.binary32.IsNearest (Number.writtenDecimal x).toRat
          (Number.singleMagnitude x) ∧
        ∃ y : Float, Json.numberOfText? (Number.Layout.jsonSingle.single x) = some (.real y) ∧
          Json.IsReadAs (Number.Layout.jsonSingle.single x) (Number.singleNegative x)
            (Number.writtenDecimal x).toRat y ∧
          reread x = Number.singleOfDouble y ∧ ∀ z, Number.Rounds y z ↔ z = reread x := by
  have all := readCommands_writeCommands_toOption commands
  rw [mapM_ite] at all
  cases result : readCommands (writeCommands commands) with
  | error error =>
    rw [result] at all
    have infinite : ¬ ∀ command ∈ commands, command.IsFinite := by
      intro finite
      rw [if_pos finite] at all
      cases all
    refine ⟨⟨?_, fun finite => absurd finite infinite⟩, ?_⟩
    · rintro ⟨read, ⟨⟩⟩
    · rintro read ⟨⟩
  | ok read =>
    rw [result] at all
    have finite : ∀ command ∈ commands, command.IsFinite := by
      by_contra infinite
      rw [if_neg infinite] at all
      cases all
    rw [if_pos finite] at all
    refine ⟨⟨fun _ => finite, fun _ => ⟨read, rfl⟩⟩, ?_⟩
    rintro read ⟨⟩
    refine ⟨Option.some.inj all, fun command member x number => ?_⟩
    have finiteNumber := finite command member x number
    obtain ⟨y, -, digits, computed, rounded⟩ := exists_reread finiteNumber
    refine ⟨Number.isNearest_writtenDecimal finiteNumber, y, digits, computed, rounded,
      fun z => ?_⟩
    rw [rounded]
    exact Number.rounds_iff

/-- A cell with quotes, control characters and no alignment comes back, and numbers as they were:
a negative zero, and some that are written with a point or an exponent. -/
theorem readCommands_writeCommands_controlCharacters :
    let drawn : Cell := ⟨0.1, 1e30, "\"\\\x00\n\u2028", ⟨true, false, true, false⟩, none, true⟩
    (∀ command ∈ [Command.moveTo (-0.0) 3, .cell drawn], command.IsFinite) ∧
      readCommands (writeCommands [.moveTo (-0.0) 3, .cell drawn]) =
        .ok [.moveTo (-0.0) 3, .cell drawn] := by
  intro drawn
  have finite : ∀ command ∈ [Command.moveTo (-0.0) 3, .cell drawn], command.IsFinite := by
    decide +kernel
  obtain ⟨read, result⟩ := (readCommands_writeCommands [.moveTo (-0.0) 3, .cell drawn]).1.2 finite
  have same := ((readCommands_writeCommands [.moveTo (-0.0) 3, .cell drawn]).2 read result).1
  have numbers : reread (-0.0) = -0.0 ∧ reread 3 = 3 ∧ reread drawn.width = drawn.width ∧
      reread drawn.height = drawn.height := by
    decide +kernel
  obtain ⟨zero, three, width, height⟩ := numbers
  refine ⟨finite, ?_⟩
  rw [result, same]
  simp only [List.map_cons, List.map_nil, Command.mapNumbers, zero, three, width, height]

end Folio
