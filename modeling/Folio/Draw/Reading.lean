import Folio.Draw.Command
import Folio.Json.Reader
import Folio.Json.Record

/-!
# Reading draw commands

Draw commands are read from a JSON list. Each is an object with the member `op` anywhere among its
members, or a list of the name of its call and the values of its members in order. A command is
decoded as soon as it was read, before the text behind it; a fault of its members is placed where
the list goes on, a fault of its call where the call stands.
-/

namespace Folio

open Json (Value Cause Fault Reader Slot)

/-! ## Values of members -/

/-- Refuses a value of the wrong kind. -/
def wrongKind {α : Type} (value : Value) (wanted : String) : Except Cause α :=
  .error (.wrongKind value.kind wanted)

/-- A number. -/
def numberOf : Value → Except Cause Float32
  | .number n => .ok n.single
  | value => wrongKind value "f32"

/-- A text. -/
def textOf : Value → Except Cause String
  | .string s => .ok s
  | value => wrongKind value "a string"

/-- A truth value. -/
def boolOf : Value → Except Cause Bool
  | .bool b => .ok b
  | value => wrongKind value "a boolean"

/-- A part of a colour: an integer below 256. -/
def partOf : Value → Except Cause UInt8
  | .number (.natural n) =>
    if n < 256 then .ok (UInt8.ofNat n) else .error (.wrongValue (.number (.natural n)) "u8")
  | .number (.negative n) => .error (.wrongValue (.number (.negative n)) "u8")
  | value => wrongKind value "u8"

/-- The parts of a colour that were read so far. -/
structure ColourDraft where
  red : Option UInt8 := none
  green : Option UInt8 := none
  blue : Option UInt8 := none

/-- The slots of a colour. -/
def ColourDraft.slots : List (Slot ColourDraft) :=
  [.of "r" red (fun d v => { d with red := some v }) partOf,
   .of "g" green (fun d v => { d with green := some v }) partOf,
   .of "b" blue (fun d v => { d with blue := some v }) partOf]

/-- The colour of a full draft. -/
def ColourDraft.colour (draft : ColourDraft) : Except Cause Colour := do
  return ⟨← Json.required "r" draft.red, ← Json.required "g" draft.green,
    ← Json.required "b" draft.blue⟩

/-- A colour. -/
def colourOf : Value → Except Cause Colour
  | .object members => do (← Json.fillMembers ColourDraft.slots {} members).colour
  | .list items => do (← Json.fillItems "struct Rgb" 0 {} ColourDraft.slots items).colour
  | value => wrongKind value "struct Rgb"

/-- A set of sides by its letters. -/
def sidesOf (value : Value) : Except Cause Sides := do
  let letters ← textOf value
  match Sides.parse? letters with
  | some sides => .ok sides
  | none => .error (.misspelt "border sides" letters)

/-- An alignment by its letter. -/
def alignOfLetter (letter : String) : Except Cause Align :=
  match Align.all.find? (·.letter == letter) with
  | some align => .ok align
  | none => .error (.unknownVariant letter (Align.all.map Align.letter))

/-- Refuses anything but null and the empty object. -/
def nothingOf : Value → Except Cause Unit
  | .null => .ok ()
  | .object [] => .ok ()
  | value => wrongKind value "unit"

/-- An alignment, or none. Its letter may also be the key of the one member of an object. -/
def alignOf : Value → Except Cause (Option Align)
  | .null => .ok none
  | .string letter => (alignOfLetter letter).map some
  | .object [(letter, content)] => do
    let align ← alignOfLetter letter
    nothingOf content
    return some align
  | .object _ => .error (.wrongValue .object "map with a single key")
  | value => wrongKind value "string or map"

/-! ## Commands -/

/-- The members of a command that were read so far. -/
structure CommandDraft where
  colour : Option Colour := none
  family : Option String := none
  flags : Option String := none
  size : Option Float32 := none
  x : Option Float32 := none
  y : Option Float32 := none
  width : Option Float32 := none
  height : Option Float32 := none
  text : Option String := none
  border : Option Sides := none
  align : Option (Option Align) := none
  fill : Option Bool := none

namespace CommandDraft

/-- The slot of the width. -/
def widthSlot : Slot CommandDraft :=
  .of "width" width (fun d v => { d with width := some v }) numberOf

/-- The slot of the height. -/
def heightSlot : Slot CommandDraft :=
  .of "height" height (fun d v => { d with height := some v }) numberOf

/-- The slots of the members of a call, in order. -/
def slots : Call → List (Slot CommandDraft)
  | .setTextColour | .setDrawColour | .setFillColour =>
    [.of "color" colour (fun d v => { d with colour := some v }) colourOf]
  | .setFont =>
    [.of "family" family (fun d v => { d with family := some v }) textOf,
     .of "style" flags (fun d v => { d with flags := some v }) textOf,
     .of "size" size (fun d v => { d with size := some v }) numberOf]
  | .moveTo =>
    [.of "x" x (fun d v => { d with x := some v }) numberOf,
     .of "y" y (fun d v => { d with y := some v }) numberOf]
  | .cell =>
    [widthSlot, heightSlot,
     .of "text" text (fun d v => { d with text := some v }) textOf,
     .of "border" border (fun d v => { d with border := some v }) sidesOf,
     .of "align" align (fun d v => { d with align := some v }) alignOf,
     .of "fill" fill (fun d v => { d with fill := some v }) boolOf]
  | .newLine => [heightSlot]
  | .advance => [widthSlot]

open Json (required)

/-- The command of a full draft; an alignment that was left out is none. -/
def command (draft : CommandDraft) : Call → Except Cause Command
  | .setTextColour => do return .setTextColour (← required "color" draft.colour)
  | .setDrawColour => do return .setDrawColour (← required "color" draft.colour)
  | .setFillColour => do return .setFillColour (← required "color" draft.colour)
  | .setFont => do
    return .setFont (← required "family" draft.family) (← required "style" draft.flags)
      (← required "size" draft.size)
  | .moveTo => do return .moveTo (← required "x" draft.x) (← required "y" draft.y)
  | .cell => do
    return .cell {
      width := ← required "width" draft.width
      height := ← required "height" draft.height
      text := ← required "text" draft.text
      border := ← required "border" draft.border
      align := draft.align.getD none
      fill := ← required "fill" draft.fill }
  | .newLine => do return .newLine (← required "height" draft.height)
  | .advance => do return .advance (← required "width" draft.width)

end CommandDraft

/-- What messages call the record of a call. -/
def Call.recordName : Call → String
  | .setTextColour => "struct variant DrawCommand::SetTextColor"
  | .setDrawColour => "struct variant DrawCommand::SetDrawColor"
  | .setFillColour => "struct variant DrawCommand::SetFillColor"
  | .setFont => "struct variant DrawCommand::SetFont"
  | .moveTo => "struct variant DrawCommand::MoveTo"
  | .cell => "struct Cell"
  | .newLine => "struct variant DrawCommand::NewLine"
  | .advance => "struct variant DrawCommand::AdvanceX"

/-- The command of a call with the members of an object. -/
def commandOfMembers (call : Call) (members : List (String × Value)) : Except Cause Command := do
  (← Json.fillMembers (CommandDraft.slots call) {} members).command call

/-- The command of a call with the items of a list. -/
def commandOfItems (call : Call) (items : List Value) : Except Cause Command := do
  (← Json.fillItems call.recordName 0 {} (CommandDraft.slots call) items).command call

/-! ## Texts -/

/-- The fault of a text that does not go on with a value of the kind wanted. A list or an object is
refused before it is read. -/
def wrongKindFault (wanted : String) (text : List Char) : Fault :=
  match Json.skipSpace text with
  | '[' :: rest => Json.faultBefore (.wrongKind .list wanted) ('[' :: rest)
  | '\x7b' :: rest => Json.faultBefore (.wrongKind .object wanted) ('\x7b' :: rest)
  | other =>
    match Json.value 0 other with
    | .ok (value, rest) => Json.faultBefore (.wrongKind value.kind wanted) rest.val
    | .error fault => fault

/-- What is left once a list has been closed or has moved on to its next item. -/
def afterItem (text : List Char) : List Char :=
  match Json.skipSpace text with
  | ']' :: rest => rest
  | ',' :: rest => Json.skipSpace rest
  | other => other

/-- What is left once an object has been closed, if it closes here. -/
def afterMember (text : List Char) : List Char :=
  match Json.skipSpace text with
  | '\x7d' :: rest => rest
  | other => other

/-- Reads the name of a call. -/
def readCall : Reader Call := fun text =>
  match h : Json.skipSpace text with
  | '"' :: rest => do
    let ⟨name, rest, _⟩ ← Json.stringBody rest
    match Call.ofName? name with
    | some call => return (call, ⟨rest, by have := Json.length_lt_of_skipSpace h; omega⟩)
    | none =>
      throw (Json.faultBefore (.unknownVariant name (Call.all.map Call.name)) rest)
  | _ => .error (wrongKindFault "variant identifier" text)

/-- What was read of a command object: its call, and its other members, the last one first. -/
abbrev CommandMembers := Option Call × List (String × Value)

/-- Reads a member of a command object from behind its key. -/
def readCommandMember (depth : Nat) (before : CommandMembers) (key : String) :
    Reader CommandMembers := fun text =>
  if key = "op" then
    if before.1.isSome then
      .error (Json.faultBefore (.repeatedField "op") (afterMember text))
    else do
      let ⟨(), rest, _⟩ ← Json.colon text
      let ⟨call, rest, _⟩ ← readCall rest
      return ((some call, before.2), ⟨rest, by omega⟩)
  else do
    let ⟨(), rest, _⟩ ← Json.colon text
    let ⟨value, rest, _⟩ ← Json.value depth rest
    return ((before.1, (key, value) :: before.2), ⟨rest, by omega⟩)

/-- Places a cause where the list of commands goes on. -/
def placedAfterItem {text : List Char} (decoded : Except Cause Command)
    (rest : Json.Rest text) : Except Fault (Command × Json.Rest text) :=
  match decoded with
  | .ok command => .ok (command, rest)
  | .error cause => .error (Json.faultBefore cause (afterItem rest.val))

/-- Reads a command inside which at most the given number of brackets may be open at once. -/
def readCommand (depth : Nat) : Reader Command := fun text =>
  match h : Json.skipSpace text with
  | '\x7b' :: rest => do
    let ⟨(call, members), rest, _⟩ ←
      Json.members (readCommandMember depth) (none, []) true rest
    match call with
    | none => throw (Json.faultBefore (.missingField "op") rest)
    | some call =>
      placedAfterItem (commandOfMembers call members.reverse)
        ⟨rest, by have := Json.length_lt_of_skipSpace h; omega⟩
  | '[' :: rest =>
    match Json.skipSpace rest with
    | [] => .error ⟨.listUnfinished, 0⟩
    | ']' :: behind => .error (Json.faultBefore (.missingField "op") behind)
    | _ => do
      let ⟨call, rest, _⟩ ← readCall rest
      let ⟨items, rest, _⟩ ← Json.items (Json.value depth) false rest
      placedAfterItem (commandOfItems call items)
        ⟨rest, by have := Json.length_lt_of_skipSpace h; omega⟩
  | _ => .error (wrongKindFault "internally tagged enum DrawCommand" text)

/-- Reads the list of commands at the front of a text. -/
def readCommandList : Reader (List Command) := fun text =>
  match h : Json.skipSpace text with
  | '[' :: rest => do
    let ⟨commands, rest, _⟩ ← Json.items (readCommand (Json.maxDepth - 2)) true rest
    return (commands, ⟨rest, by have := Json.length_lt_of_skipSpace h; omega⟩)
  | _ => .error (wrongKindFault "a sequence" text)

/-- Reads the JSON text of draw commands. -/
def readCommands (text : String) : Except Json.Error (List Command) :=
  let chars := text.toList
  let read := do
    let (commands, rest) ← readCommandList chars
    Json.finished rest.val
    return commands
  read.mapError (·.error chars)

end Folio
