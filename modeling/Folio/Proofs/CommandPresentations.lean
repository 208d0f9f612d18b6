import Folio.Proofs.CommandsReread
import Folio.Proofs.RecordSlots

/-!
# Commands in many presentations

A command can be written as an object, with its members in any order among unknown ones and the name
of its call anywhere, or as the list of the name and the values. A colour can be written in either
way too, the letters of a border in any order, case and number, and an alignment that is none need
not be written in an object. `WritesCommand` says which values write a command, and `CommandsText`
which texts write a list of commands, whatever their blanks and escapes.

The reader keeps the members until the name of the call is known and then fills a draft with them,
slot by slot. Slots for different members can be filled in any order (`CommandDraft.apart_slots`),
so every such text is read as the commands that it writes (`readCommands_of_commandsText`).
-/

namespace Folio

open Json (Value Slot Blanks TextOf TailText BracketText ReadsText fillMembers fillItems outcome
  skipSpace)
open List (Forall₂)

/-! ## Ways to write commands -/

/-- Whether a value writes a number: a number that comes to it in 32 bits. -/
inductive WritesNumber (x : Float32) : Value → Prop
  | number {n : Json.Number} (comes : n.single = x) : WritesNumber x (.number n)

/-- Whether a value writes a colour: an object of its parts in any order, or the list of them. -/
inductive WritesColour (colour : Colour) : Value → Prop
  | object {extra members : List (String × Value)} (unknown : ∀ x ∈ extra, x.1 ∉ ["r", "g", "b"])
      (anyOrder : members.Perm ([("r", partValue colour.red), ("g", partValue colour.green),
        ("b", partValue colour.blue)] ++ extra)) :
      WritesColour colour (.object members)
  | list : WritesColour colour
      (.list [partValue colour.red, partValue colour.green, partValue colour.blue])

/-- Whether a character is the letter of a side, in either case. -/
def Side.IsLetter (side : Side) (c : Char) : Prop :=
  c = side.letter ∨ c = side.letter.toLower

instance (side : Side) (c : Char) : Decidable (side.IsLetter c) :=
  inferInstanceAs (Decidable (c = side.letter ∨ c = side.letter.toLower))

/-- Whether a value writes a set of sides: a text with the letters of them and no others, with any
noughts between and blanks around them. -/
inductive WritesSides (sides : Sides) : Value → Prop
  | string {s : String}
      (letters : ∀ c ∈ Text.trimBlanks s.toList, c = '0' ∨ ∃ side : Side, side.IsLetter c)
      (same : ∀ side, sides.contains side = true ↔
        ∃ c ∈ Text.trimBlanks s.toList, side.IsLetter c) :
      WritesSides sides (.string s)

/-- Whether a value writes an alignment, or none. -/
inductive WritesAlign : Option Align → Value → Prop
  | null : WritesAlign none .null
  | letter (align : Align) : WritesAlign (some align) (.string align.letter)

/-- Whether members write what a command is given, all of them in order. -/
inductive WritesFields : Command → List (String × Value) → Prop
  | setTextColour {colour : Colour} {v : Value} (written : WritesColour colour v) :
      WritesFields (.setTextColour colour) [("color", v)]
  | setDrawColour {colour : Colour} {v : Value} (written : WritesColour colour v) :
      WritesFields (.setDrawColour colour) [("color", v)]
  | setFillColour {colour : Colour} {v : Value} (written : WritesColour colour v) :
      WritesFields (.setFillColour colour) [("color", v)]
  | setFont {family flags : String} {size : Float32} {v : Value} (written : WritesNumber size v) :
      WritesFields (.setFont family flags size)
        [("family", .string family), ("style", .string flags), ("size", v)]
  | moveTo {x y : Float32} {v w : Value} (xWritten : WritesNumber x v)
      (yWritten : WritesNumber y w) :
      WritesFields (.moveTo x y) [("x", v), ("y", w)]
  | cell {drawn : Cell} {width height border align : Value}
      (widthWritten : WritesNumber drawn.width width)
      (heightWritten : WritesNumber drawn.height height)
      (borderWritten : WritesSides drawn.border border)
      (alignWritten : WritesAlign drawn.align align) :
      WritesFields (.cell drawn)
        [("width", width), ("height", height), ("text", .string drawn.text), ("border", border),
          ("align", align), ("fill", .bool drawn.fill)]
  | newLine {height : Float32} {v : Value} (written : WritesNumber height v) :
      WritesFields (.newLine height) [("height", v)]
  | advance {width : Float32} {v : Value} (written : WritesNumber width v) :
      WritesFields (.advance width) [("width", v)]

/-- Whether members write what a command is given. An alignment that would be null may be left
out. -/
inductive WritesMembers : Command → List (String × Value) → Prop
  | all {command : Command} {fields : List (String × Value)}
      (written : WritesFields command fields) : WritesMembers command fields
  | alignless {drawn : Cell} {width height text border fill : String × Value}
      (written : WritesFields (.cell drawn)
        [width, height, text, border, ("align", .null), fill]) :
      WritesMembers (.cell drawn) [width, height, text, border, fill]

/-- The keys of what the commands of a call are given. -/
def Call.keys : Call → List String
  | .setTextColour | .setDrawColour | .setFillColour => ["color"]
  | .setFont => ["family", "style", "size"]
  | .moveTo => ["x", "y"]
  | .cell => ["width", "height", "text", "border", "align", "fill"]
  | .newLine => ["height"]
  | .advance => ["width"]

/-- Whether a value writes a command: an object of its members in any order and among unknown ones,
or the list of its name and the values of its members. -/
inductive WritesCommand (command : Command) : Value → Prop
  | object {fields extra members : List (String × Value)} (written : WritesMembers command fields)
      (unknown : ∀ x ∈ extra, x.1 ≠ "op" ∧ x.1 ∉ command.call.keys)
      (anyOrder : members.Perm (("op", .string command.call.name) :: (fields ++ extra))) :
      WritesCommand command (.object members)
  | list {fields : List (String × Value)} (written : WritesFields command fields) :
      WritesCommand command (.list (.string command.call.name :: fields.map Prod.snd))

/-- Whether a text writes a list of commands. -/
inductive CommandsText (commands : List Command) : List Char → Prop
  | mk {space text space' : List Char} {values : List Value} (blank : Blanks space)
      (blank' : Blanks space') (written : Forall₂ WritesCommand commands values)
      (spelt : TextOf Json.maxDepth text (.list values)) :
      CommandsText commands (space ++ (text ++ space'))

/-! ## Slots that are apart -/

theorem ColourDraft.apart_slots : Json.SlotsApart slots := by
  simp only [slots, Json.slotsApart_cons, List.forall_mem_cons]
  and_intros
  all_goals first
    | exact Slot.apart_self_of fun _ _ => rfl
    | exact Slot.apart_of (fun _ _ => rfl) (fun _ _ => rfl) fun _ _ _ => rfl
    | exact List.forall_mem_nil _

/-- What a command is given can be read in any order. -/
theorem CommandDraft.apart_slots (call : Call) : Json.SlotsApart (slots call) := by
  cases call
  all_goals
    simp only [slots, widthSlot, heightSlot, Json.slotsApart_cons, List.forall_mem_cons]
    and_intros
  all_goals first
    | exact Slot.apart_self_of fun _ _ => rfl
    | exact Slot.apart_of (fun _ _ => rfl) (fun _ _ => rfl) fun _ _ _ => rfl
    | exact List.forall_mem_nil _

theorem CommandDraft.keys_slots (call : Call) : (slots call).map Slot.key = call.keys := by
  cases call <;> rfl

/-! ## Values read -/

theorem numberOf_of_writesNumber {x : Float32} {v : Value} (written : WritesNumber x v) :
    numberOf v = .ok x := by
  cases written with
  | number comes => rw [numberOf, comes]

theorem colourOf_of_writesColour {colour : Colour} {v : Value} (written : WritesColour colour v) :
    colourOf v = .ok colour := by
  cases written with
  | object unknown anyOrder =>
    have fills : fillMembers ColourDraft.slots {} [("r", partValue colour.red),
        ("g", partValue colour.green), ("b", partValue colour.blue)] =
        .ok ⟨some colour.red, some colour.green, some colour.blue⟩ := by
      simp [fillMembers, ColourDraft.slots, Slot.of, partOf_partValue, bind, Except.bind,
        Except.map]
    rw [colourOf, Json.fillMembers_of_perm ColourDraft.apart_slots fills unknown anyOrder]
    rfl
  | list =>
    simp [colourOf, fillItems, ColourDraft.slots, Slot.of, partOf_partValue, ColourDraft.colour,
      Json.required, bind, Except.bind, Except.map, pure, Except.pure]

theorem alignOf_of_writesAlign {align : Option Align} {v : Value} (written : WritesAlign align v) :
    alignOf v = .ok align := by
  cases written with
  | null => rfl
  | letter align =>
    rw [alignOf, alignOfLetter_letter]
    rfl

theorem eq_none_of_writesAlign_null {align : Option Align} (written : WritesAlign align .null) :
    align = none := by
  cases written
  rfl

/-! ### Sides -/

theorem Side.toUpper_of_isLetter {side : Side} {c : Char} (isLetter : side.IsLetter c) :
    c.toUpper = side.letter := by
  rcases isLetter with rfl | rfl <;> cases side <;> decide

theorem Side.letter_injective {side other : Side} (same : side.letter = other.letter) :
    side = other := by
  cases side <;> cases other <;> first | rfl | cases same

theorem Side.isLetter_iff_of_isLetter {side : Side} {c : Char} (isLetter : side.IsLetter c)
    (other : Side) : other.IsLetter c ↔ other = side := by
  constructor
  · intro isOther
    exact letter_injective ((toUpper_of_isLetter isOther).symm.trans (toUpper_of_isLetter isLetter))
  · rintro rfl
    exact isLetter

theorem Side.not_isLetter_nought (side : Side) : ¬ side.IsLetter '0' := by
  intro isLetter
  have upper := toUpper_of_isLetter isLetter
  cases side <;> cases upper

theorem Side.find?_letter (side : Side) : all.find? (·.letter == side.letter) = some side := by
  cases side <;> decide

theorem Sides.contains_set (sides : Sides) (side other : Side) :
    (sides.set side true).contains other = true ↔ other = side ∨ sides.contains other = true := by
  cases side <;> cases other <;> simp [set, contains]

theorem Sides.eq_of_contains {sides others : Sides}
    (same : ∀ side, sides.contains side = true ↔ others.contains side = true) : sides = others := by
  have each : ∀ side, sides.contains side = others.contains side := fun side =>
    Bool.eq_iff_iff.2 (same side)
  obtain ⟨left, top, right, bottom⟩ := sides
  obtain ⟨left', top', right', bottom'⟩ := others
  rw [mk.injEq]
  exact ⟨each .left, each .top, each .right, each .bottom⟩

/-- Letters add their sides to a set, and noughts add none. -/
theorem Sides.addLetters?_of_letters {chars : List Char}
    (letters : ∀ c ∈ chars, c = '0' ∨ ∃ side : Side, side.IsLetter c) (sides : Sides) :
    ∃ result, addLetters? sides chars = some result ∧ ∀ side, result.contains side = true ↔
      sides.contains side = true ∨ ∃ c ∈ chars, side.IsLetter c := by
  induction chars generalizing sides with
  | nil => exact ⟨sides, rfl, fun side => (or_iff_left (by rintro ⟨_, ⟨⟩, _⟩)).symm⟩
  | cons c chars ih =>
    obtain ⟨first, others⟩ := List.forall_mem_cons.1 letters
    rcases first with rfl | ⟨side, isLetter⟩
    · obtain ⟨result, read, same⟩ := ih others sides
      refine ⟨result, ?_, fun other => ?_⟩
      · rw [addLetters?, if_pos (by decide), read]
      · rw [same, List.exists_mem_cons_iff, or_iff_right other.not_isLetter_nought]
    · obtain ⟨result, read, same⟩ := ih others (sides.set side true)
      have noNought : side.letter ≠ '0' := by cases side <;> decide
      refine ⟨result, ?_, fun other => ?_⟩
      · rw [addLetters?, Side.toUpper_of_isLetter isLetter, if_neg noNought, Side.find?_letter]
        exact read
      · rw [same, contains_set, List.exists_mem_cons_iff, Side.isLetter_iff_of_isLetter isLetter,
          or_assoc, or_left_comm]

theorem sidesOf_of_writesSides {sides : Sides} {v : Value} (written : WritesSides sides v) :
    sidesOf v = .ok sides := by
  cases written with
  | string letters same =>
    obtain ⟨result, read, contains⟩ := Sides.addLetters?_of_letters letters .none
    have equal : result = sides := by
      refine Sides.eq_of_contains fun side => ?_
      rw [contains, same]
      exact or_iff_right (by cases side <;> exact Bool.false_ne_true)
    rw [equal] at read
    rw [sidesOf, textOf]
    dsimp only [bind, Except.bind]
    rw [Sides.parse?, read]

/-! ## Members read -/

/-- The draft of a cell, whose alignment may not have been read. -/
def Cell.draft (drawn : Cell) (align : Option (Option Align)) : CommandDraft where
  width := some drawn.width
  height := some drawn.height
  text := some drawn.text
  border := some drawn.border
  align := align
  fill := some drawn.fill

section

-- Filling a draft slot by slot and taking the command out of it again.
attribute [local simp] fillMembers fillItems Cell.draft CommandDraft.slots CommandDraft.widthSlot
  CommandDraft.heightSlot Slot.of Command.call textOf boolOf Except.bind Except.map bind

/-- What a command is given fills a draft that comes to the command. -/
theorem exists_draft_of_writesMembers {command : Command} {fields : List (String × Value)}
    (written : WritesMembers command fields) :
    ∃ draft, fillMembers (CommandDraft.slots command.call) {} fields = .ok draft ∧
      draft.command command.call = .ok command := by
  cases written with
  | all written =>
    cases written with
    | @setTextColour colour v written =>
      exact ⟨{ colour := some colour }, by simp [colourOf_of_writesColour written], rfl⟩
    | @setDrawColour colour v written =>
      exact ⟨{ colour := some colour }, by simp [colourOf_of_writesColour written], rfl⟩
    | @setFillColour colour v written =>
      exact ⟨{ colour := some colour }, by simp [colourOf_of_writesColour written], rfl⟩
    | @setFont family flags size v written =>
      exact ⟨{ family := some family, flags := some flags, size := some size },
        by simp [numberOf_of_writesNumber written], rfl⟩
    | @moveTo x y v w xWritten yWritten =>
      exact ⟨{ x := some x, y := some y },
        by simp [numberOf_of_writesNumber xWritten, numberOf_of_writesNumber yWritten], rfl⟩
    | @cell drawn width height border align widthWritten heightWritten borderWritten alignWritten =>
      exact ⟨drawn.draft (some drawn.align),
        by simp [numberOf_of_writesNumber widthWritten, numberOf_of_writesNumber heightWritten,
          sidesOf_of_writesSides borderWritten, alignOf_of_writesAlign alignWritten], rfl⟩
    | @newLine height v written =>
      exact ⟨{ height := some height }, by simp [numberOf_of_writesNumber written], rfl⟩
    | @advance width v written =>
      exact ⟨{ width := some width }, by simp [numberOf_of_writesNumber written], rfl⟩
  | @alignless drawn _ _ _ _ _ written =>
    cases written with
    | cell widthWritten heightWritten borderWritten alignWritten =>
      have alignless := eq_none_of_writesAlign_null alignWritten
      refine ⟨drawn.draft none, by simp [numberOf_of_writesNumber widthWritten,
        numberOf_of_writesNumber heightWritten, sidesOf_of_writesSides borderWritten], ?_⟩
      obtain ⟨width, height, text, border, align, fill⟩ := drawn
      cases alignless
      rfl

end

theorem map_fst_of_writesFields {command : Command} {fields : List (String × Value)}
    (written : WritesFields command fields) : fields.map Prod.fst = command.call.keys := by
  cases written <;> rfl

theorem Call.nodup_keys (call : Call) : call.keys.Nodup := by
  cases call <;> decide

/-- The list of what a command is given comes to the command. -/
theorem commandOfItems_of_writesFields {command : Command} {fields : List (String × Value)}
    (written : WritesFields command fields) :
    commandOfItems command.call (fields.map Prod.snd) = .ok command := by
  obtain ⟨draft, fills, comes⟩ := exists_draft_of_writesMembers (.all written)
  have keys := map_fst_of_writesFields written
  have distinct := command.call.nodup_keys
  rw [← CommandDraft.keys_slots] at keys distinct
  rw [commandOfItems, Json.fillItems_of_fillMembers distinct keys fills]
  exact comes

/-- The members of what a command is given come to the command in any order and among unknown
ones. -/
theorem commandOfMembers_of_perm {command : Command} {fields extra members : List (String × Value)}
    (written : WritesMembers command fields) (unknown : ∀ x ∈ extra, x.1 ∉ command.call.keys)
    (anyOrder : members.Perm (fields ++ extra)) :
    commandOfMembers command.call members = .ok command := by
  obtain ⟨draft, fills, comes⟩ := exists_draft_of_writesMembers written
  have apart := CommandDraft.apart_slots command.call
  rw [← CommandDraft.keys_slots] at unknown
  rw [commandOfMembers, Json.fillMembers_of_perm apart fills unknown anyOrder]
  exact comes

theorem op_notMem_keys (call : Call) : "op" ∉ call.keys := by
  cases call <;> decide

theorem mem_keys_of_writesMembers {command : Command} {fields : List (String × Value)}
    (written : WritesMembers command fields) : ∀ x ∈ fields, x.1 ∈ command.call.keys := by
  have listed : ∀ {command : Command} {fields : List (String × Value)},
      WritesFields command fields → ∀ x ∈ fields, x.1 ∈ command.call.keys := by
    intro command fields written x member
    rw [← map_fst_of_writesFields written]
    exact List.mem_map_of_mem member
  cases written with
  | all written => exact listed written
  | alignless written =>
    intro x member
    refine listed written x ?_
    simp only [List.mem_cons, List.not_mem_nil, or_false] at member ⊢
    rcases member with isWidth | isHeight | isText | isBorder | isFill <;> simp [*]

/-- The name of the call may stand anywhere among the members. -/
theorem commandOfObject?_of_writesMembers {command : Command}
    {fields extra members : List (String × Value)} (written : WritesMembers command fields)
    (unknown : ∀ x ∈ extra, x.1 ≠ "op" ∧ x.1 ∉ command.call.keys)
    (anyOrder : members.Perm (("op", .string command.call.name) :: (fields ++ extra))) :
    commandOfObject? members = some command := by
  obtain ⟨before, behind, rfl⟩ := List.append_of_mem (anyOrder.mem_iff.2 List.mem_cons_self)
  have others : (before ++ behind).Perm (fields ++ extra) :=
    (List.perm_middle.symm.trans anyOrder).cons_inv
  have noName : ∀ x ∈ before ++ behind, x.1 ≠ "op" := by
    intro x member
    rcases List.mem_append.1 (others.mem_iff.1 member) with isField | isExtra
    · intro name
      have key := mem_keys_of_writesMembers written x isField
      rw [name] at key
      exact op_notMem_keys command.call key
    · exact (unknown x isExtra).1
  obtain ⟨noNameBefore, noNameBehind⟩ := List.forall_mem_append.1 noName
  have kept : (behind.reverse ++ (before.reverse ++ [])).reverse = before ++ behind := by
    rw [List.append_nil, List.reverse_append, List.reverse_reverse, List.reverse_reverse]
  rw [commandOfObject?, List.foldlM_append, foldlM_addCommandMember noNameBefore]
  dsimp only [Option.bind_eq_bind, Option.bind_some]
  rw [List.foldlM_cons, addCommandMember_name]
  dsimp only [Option.bind_eq_bind, Option.bind_some]
  rw [foldlM_addCommandMember noNameBehind]
  dsimp only [Option.bind_some]
  rw [kept, commandOfMembers_of_perm written (fun x member => (unknown x member).2) others]
  rfl

/-! ## Texts read -/

theorem outcome_readCommand_list {brackets : Nat} {text rest others : List Char} {c : Char}
    (start : skipSpace text = '[' :: rest) (goesOn : skipSpace rest = c :: others)
    (noClose : c ≠ ']') :
    outcome (readCommand brackets text) = (outcome (readCall rest)).bind fun call =>
      (outcome (Json.items (Json.value brackets) false call.2)).bind fun items =>
        (commandOfItems call.1 items.1).toOption.map fun command => (command, items.2) := by
  rw [readCommand]
  split
  · rename_i rest' same
    rw [start] at same
    cases same
  · rename_i rest' same
    rw [start] at same
    cases same
    split
    · rename_i empty
      rw [goesOn] at empty
      cases empty
    · rename_i closed
      rw [goesOn] at closed
      cases closed
      exact absurd rfl noClose
    · refine Json.outcome_bind fun call rest => ?_
      refine Json.outcome_bind fun items rest => ?_
      dsimp only [placedAfterItem]
      cases commandOfItems call items <;> rfl
  · rename_i other
    exact absurd start (other rest)

/-- A command is read from every text of a list of its name and its values. -/
theorem readsText_readCommand_list {brackets : Nat} {text : List Char} {name : Value}
    {values : List Value}
    (bracket : BracketText '[' ']' (TextOf brackets) text (name :: values)) :
    ReadsText (readCommand brackets) text
      ((callOf? name).bind fun call => (commandOfItems call values).toOption) := by
  cases bracket with
  | @items space text behind _ _ blank spelt others =>
    have tail : TailText ']' (ReadsText (Json.value brackets)) behind (values.map some) := by
      refine others.relate (fun text v result spelt same => ?_)
        (List.forall₂_map_right_iff.2 (List.forall₂_same.2 fun v _ => (rfl : some v = some v)))
      rw [← same]
      exact Json.readsText_of_textOf spelt
    refine ⟨⟨'[', _, rfl, by decide, by decide⟩, fun before rest _ start => ?_⟩
    have ends := Json.endsNumber_tail (Json.endsNumber_cons (by decide) []) tail rest
    obtain ⟨c, others, goesOn, noClose, called⟩ := (readsText_readCall spelt).behind blank ends
    rw [List.cons_append, List.append_assoc, List.append_assoc] at start
    rw [outcome_readCommand_list start goesOn noClose, called]
    cases callOf? name with
    | none => rfl
    | some call =>
      rw [Option.map_some, Option.bind_some, Json.outcome_items_tail tail, Json.mapM_id_map_some]
      rfl

/-- Every text of a value that writes a command is read as the command. -/
theorem readsText_of_writesCommand {brackets : Nat} {text : List Char} {v : Value}
    {command : Command} (spelt : TextOf (brackets + 1) text v)
    (written : WritesCommand command v) :
    ReadsText (readCommand brackets) text (some command) := by
  cases written with
  | object written unknown anyOrder =>
    cases spelt with
    | scalar spelt => cases spelt
    | object bracket =>
      have read := readsText_readCommand bracket
      rwa [commandOfObject?_of_writesMembers written unknown anyOrder] at read
  | list written =>
    cases spelt with
    | scalar spelt => cases spelt
    | list bracket =>
      have read := readsText_readCommand_list bracket
      rwa [callOf?, ofName?_name, Option.bind_some, commandOfItems_of_writesFields written] at read

/-- Every text that writes commands is read as them. -/
theorem readCommands_of_commandsText {commands : List Command} {text : List Char}
    (written : CommandsText commands text) : readCommands (String.ofList text) = .ok commands := by
  cases written with
  | @mk space text space' values blank blank' written spelt =>
    cases spelt with
    | scalar spelt => cases spelt
    | list bracket =>
      have each : Forall₂ (fun v result => ∀ text, TextOf (Json.maxDepth - 1) text v →
          ReadsText (readCommand (Json.maxDepth - 2)) text result) values (commands.map some) := by
        rw [List.forall₂_map_right_iff]
        exact written.flip.imp fun v command written text spelt =>
          readsText_of_writesCommand spelt written
      have read := readCommands_toOption blank blank'
        (bracket.relate (fun text v result spelt read => read text spelt) each)
      rw [Json.mapM_id_map_some] at read
      cases result : readCommands (String.ofList (space ++ (text ++ space'))) with
      | error error =>
        rw [result] at read
        cases read
      | ok others =>
        rw [result] at read
        exact congrArg _ (Option.some.inj read)

/-- A red text in a cell with a line on the left and one below. -/
def redLabel : List Command :=
  [.setTextColour ⟨255, 0, 7⟩, .cell ⟨40, 9, "A", ⟨true, false, false, true⟩, none, true⟩]

/-- The text of the colour, as a list in a list. -/
def redText : String :=
  "[\"set_text_color\",[255,0,7]]"

/-- The text of the cell, as an object backwards, without its alignment and with an unknown
member. -/
def labelText : String :=
  "\x7b\"note\":[],\"fill\":true,\"border\":\" b0Ll\",\"text\":\"A\",\"height\":9,\"width\":40," ++
    "\"op\":\"cell\"\x7d"

theorem readCommands_of_commandsText_redLabel :
    let text := ("[" ++ redText ++ "," ++ labelText ++ "]\n").toList
    CommandsText redLabel text ∧ readCommands (String.ofList text) = .ok redLabel := by
  intro text
  have no : Blanks [] := by decide
  have number : ∀ n, n < 256 → ∀ brackets,
      TextOf brackets (Nat.toDigits 10 n) (.number (.natural n)) := by
    intro n small
    have most : Json.maxSignificand = 2 ^ 64 - 1 := rfl
    exact Json.textOf_scalar (.number (Json.numberText_natural (by omega)))
  have string : ∀ s brackets, TextOf brackets (Json.writtenString s) (.string s) := fun s =>
    Json.textOf_scalar (.string (Json.stringText_writtenString s))
  have name : ∀ key, Json.StringText (Json.writtenString key) key := Json.stringText_writtenString
  have parts : TextOf 125 _ (.list [partValue 255, partValue 0, partValue 7]) :=
    .list (.items no (number 255 (by decide) 124) (.next no no (number 0 (by decide) 124)
      (.next no no (number 7 (by decide) 124) (.close no))))
  have colourText : TextOf 126 _ (.list [.string "set_text_color",
      .list [partValue 255, partValue 0, partValue 7]]) :=
    .list (.items no (string "set_text_color" 125) (.next no no parts (.close no)))
  have cellText : TextOf 126 _ (.object [("note", .list []), ("fill", .bool true),
      ("border", .string " b0Ll"), ("text", .string "A"), ("height", .number (.natural 9)),
      ("width", .number (.natural 40)), ("op", .string "cell")]) :=
    .object (.items no (.mk (name "note") no no (.list (.empty no)))
      (.next no no (.mk (name "fill") no no (Json.textOf_scalar (.bool true) 125))
      (.next no no (.mk (name "border") no no (string " b0Ll" 125))
      (.next no no (.mk (name "text") no no (string "A" 125))
      (.next no no (.mk (name "height") no no (number 9 (by decide) 125))
      (.next no no (.mk (name "width") no no (number 40 (by decide) 125))
      (.next no no (.mk (name "op") no no (string "cell" 125)) (.close no))))))))
  have colourSpelt : TextOf 126 redText.toList _ := colourText
  have cellSpelt : TextOf 126 labelText.toList _ := cellText
  have colour : WritesCommand (.setTextColour ⟨255, 0, 7⟩) (.list [.string "set_text_color",
      .list [partValue 255, partValue 0, partValue 7]]) :=
    .list (.setTextColour .list)
  have trimmed : Text.trimBlanks " b0Ll".toList = ['b', '0', 'L', 'l'] := by decide
  have sides : WritesSides ⟨true, false, false, true⟩ (.string " b0Ll") := by
    constructor
    · rw [trimmed]
      simp only [List.forall_mem_cons]
      exact ⟨.inr ⟨.bottom, by decide⟩, .inl trivial, .inr ⟨.left, by decide⟩,
        .inr ⟨.left, by decide⟩, List.forall_mem_nil _⟩
    · rw [trimmed]
      intro side
      simp only [List.exists_mem_cons_iff, List.not_mem_nil, false_and, exists_false, or_false]
      cases side <;> decide
  have fields : WritesMembers (.cell ⟨40, 9, "A", ⟨true, false, false, true⟩, none, true⟩)
      [("width", .number (.natural 40)), ("height", .number (.natural 9)), ("text", .string "A"),
        ("border", .string " b0Ll"), ("fill", .bool true)] :=
    .alignless (.cell (.number (by decide +kernel)) (.number (by decide +kernel)) sides .null)
  have unknown : ∀ x ∈ [(("note", .list []) : String × Value)],
      x.1 ≠ "op" ∧ x.1 ∉ Call.cell.keys :=
    List.forall_mem_singleton.2 (by decide)
  have cell : WritesCommand (.cell ⟨40, 9, "A", ⟨true, false, false, true⟩, none, true⟩) _ :=
    .object fields unknown (List.reverse_perm _)
  have split : text = [] ++ ('[' :: ([] ++ (redText.toList ++ ([] ++ ',' :: ([] ++
      (labelText.toList ++ ([] ++ [']'])))))) ++ ['\n']) := by
    simp [text]
  have written : CommandsText redLabel text := by
    rw [split]
    exact .mk no (by decide) (.cons colour (.cons cell .nil))
      (.list (.items no colourSpelt (.next no no cellSpelt (.close no))))
  exact ⟨written, readCommands_of_commandsText written⟩

end Folio
