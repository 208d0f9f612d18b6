import Folio.Draw.Boxes

/-!
# Drawing in blocks

Drawing a box makes one block of calls, and a block does not depend on the canvas. `Box.commands`
is the block of a box as data: `drawBox_eq_performAll` makes its calls on any canvas, and
`boxCommands_eq_flatMap` finds it in what is recorded. Drawing into a canvas and replaying a
recording into it is then the same fold over the same commands.

`Block` is the shape of the block of a box with a font. Its parts cannot be put together in another
order, and what stands behind the cell is as high or as wide as the cell.
-/

namespace Folio

variable {σ α : Type}

/-! ## Making calls -/

@[simp] theorem Canvas.performAll_nil (canvas : Canvas σ) (state : σ) :
    canvas.performAll state [] = state := rfl

@[simp] theorem Canvas.performAll_cons (canvas : Canvas σ) (state : σ) (command : Command)
    (rest : List Command) :
    canvas.performAll state (command :: rest) =
      canvas.performAll (canvas.perform state command) rest := rfl

theorem Canvas.performAll_append (canvas : Canvas σ) (state : σ) (first second : List Command) :
    canvas.performAll state (first ++ second) =
      canvas.performAll (canvas.performAll state first) second :=
  List.foldl_append

/-- An optional command is a call that is made if there is a value for it. -/
theorem Canvas.performAll_optional (canvas : Canvas σ) (state : σ) (value : Option α)
    (command : α → Command) :
    canvas.performAll state (value.map command).toList =
      callIf value (fun a state => canvas.perform state (command a)) state := by
  cases value <;> rfl

/-- The recording canvas keeps the commands themselves. -/
theorem toList_performAll_recording (kept : Array Command) (commands : List Command) :
    (recording.performAll kept commands).toList = kept.toList ++ commands := by
  induction commands generalizing kept with
  | nil => rw [Canvas.performAll_nil, List.append_nil]
  | cons command rest ih =>
    have pushed : (recording.perform kept command).toList = kept.toList ++ [command] := by
      cases command <;> exact Array.toList_push
    rw [Canvas.performAll_cons, ih, pushed, List.append_assoc, List.singleton_append]

/-! ## The block of a box -/

/-- The commands that draw a box. -/
def Box.commands (originX originY : Float32) (box : Box) : List Command :=
  let p := box.properties
  ((colour? p.textColour).map .setTextColour).toList ++
    ((colour? p.drawColour).map .setDrawColour).toList ++
    ((colour? p.fillColour).map .setFillColour).toList ++
    (p.font.map fun font => .setFont (Text.capitalized font.family) font.flags font.size).toList ++
    [.moveTo (originX + box.x) (originY + box.y), .cell box.cell,
      if box.breaksLine then .newLine box.height else .advance box.width]

/-- Drawing a box makes the calls of its block. -/
theorem drawBox_eq_performAll (canvas : Canvas σ) (originX originY : Float32) (state : σ)
    (box : Box) :
    drawBox canvas originX originY state box =
      canvas.performAll state (box.commands originX originY) := by
  rw [Box.commands, Canvas.performAll_append, Canvas.performAll_append, Canvas.performAll_append,
    Canvas.performAll_append, Canvas.performAll_optional, Canvas.performAll_optional,
    Canvas.performAll_optional, Canvas.performAll_optional, drawBox]
  by_cases breaks : box.breaksLine
  · rw [if_pos breaks, if_pos breaks]
    rfl
  · rw [if_neg breaks, if_neg breaks]
    rfl

/-- Drawing boxes makes the calls of the blocks of those that are drawn, one after the other. -/
theorem drawBoxes_eq_performAll (canvas : Canvas σ) (originX originY : Float32)
    (boxes : List Box) (state : σ) :
    drawBoxes canvas originX originY boxes state =
      canvas.performAll state
        ((boxes.filter Box.drawn).flatMap (Box.commands originX originY)) := by
  rw [drawBoxes]
  generalize boxes.filter Box.drawn = drawn
  induction drawn generalizing state with
  | nil => rfl
  | cons box rest ih =>
    rw [List.foldl_cons, ih, List.flatMap_cons, Canvas.performAll_append, drawBox_eq_performAll]

/-- What is recorded of boxes are the blocks of those that are drawn. -/
theorem boxCommands_eq_flatMap (originX originY : Float32) (boxes : List Box) :
    boxCommands originX originY boxes =
      (boxes.filter Box.drawn).flatMap (Box.commands originX originY) := by
  rw [boxCommands, drawBoxes_eq_performAll, toList_performAll_recording]
  rfl

/-! ## Blocks with a font -/

/-- The commands of one box: colours if there are any, a font, a move, a cell, and a step behind
it. -/
structure Block where
  textColour : Option Colour
  drawColour : Option Colour
  fillColour : Option Colour
  family : String
  flags : String
  size : Float32
  x : Float32
  y : Float32
  cell : Cell
  breaksLine : Bool

/-- The commands of a block. The step behind the cell is as high or as wide as the cell. -/
def Block.commands (block : Block) : List Command :=
  (block.textColour.map .setTextColour).toList ++ (block.drawColour.map .setDrawColour).toList ++
    (block.fillColour.map .setFillColour).toList ++
    [.setFont block.family block.flags block.size, .moveTo block.x block.y, .cell block.cell,
      if block.breaksLine then .newLine block.cell.height else .advance block.cell.width]

/-- A block sets the fill colour exactly when it has one. -/
theorem Block.setFillColour_mem_commands (block : Block) (colour : Colour) :
    .setFillColour colour ∈ block.commands ↔ block.fillColour = some colour := by
  have step : (.setFillColour colour : Command) ≠
      if block.breaksLine then .newLine block.cell.height else .advance block.cell.width := by
    split <;> exact Command.noConfusion
  simp only [Block.commands, List.mem_append, Option.mem_toList, Option.map_eq_some_iff,
    List.mem_cons, step]
  simp

/-- The block of a box. A box without a font has none, and the font that fonts start from stands in
for it. -/
def Box.block (originX originY : Float32) (box : Box) : Block where
  textColour := colour? box.properties.textColour
  drawColour := colour? box.properties.drawColour
  fillColour := colour? box.properties.fillColour
  family := Text.capitalized box.properties.currentFont.family
  flags := box.properties.currentFont.flags
  size := box.properties.currentFont.size
  x := originX + box.x
  y := originY + box.y
  cell := box.cell
  breaksLine := box.breaksLine

/-- The commands of a box with a font are those of its block. -/
theorem Box.commands_eq_block {box : Box} (lettered : box.properties.font.isSome)
    (originX originY : Float32) :
    box.commands originX originY = (box.block originX originY).commands := by
  obtain ⟨font, present⟩ := Option.isSome_iff_exists.1 lettered
  unfold Box.commands Block.commands Box.block
  dsimp only
  rw [Properties.currentFont, present, List.append_assoc _ _ [_, _, _]]
  rfl

end Folio
