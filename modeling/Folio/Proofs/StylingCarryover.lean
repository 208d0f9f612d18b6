import Folio.Proofs.CellGroups
import Folio.Proofs.DocumentBlocks

/-!
# What one box leaves to the next

A block makes a styling call only where its box has a value for it, so a builder can hold styles of
an earlier box when a cell is drawn. The font call never lacks and neither does the filling of a
filled cell, but a border whose colour was not given is drawn in the colour of whatever border came
before, a text whose colour cannot be read takes the colour of an earlier text, and a font size that
is not positive keeps the size of an earlier font.

`drawnAlone_iff` says for every box of every document whether this shows: a box is drawn as it would
be by itself exactly if for each style that its cell uses it either sets the style or finds the one
that a new builder starts from.
-/

namespace Folio

/-! ## The styles that are carried over -/

/-- The styles that a builder hands on from one cell to the next, where the block of the next does
not set them. -/
structure Styling where
  textColour : Colour
  drawColour : Colour
  fontSize : Float32
  deriving DecidableEq

/-- The styles of a new builder. -/
def Styling.initial : Styling := ⟨.black, .black, 12⟩

/-- The styles in force at the cell of a block, and behind it. -/
def Block.restyle (styling : Styling) (block : Block) : Styling where
  textColour := block.textColour.getD styling.textColour
  drawColour := block.drawColour.getD styling.drawColour
  fontSize := if 0 < block.size then block.size else styling.fontSize

/-- The styles that the block with a number finds. -/
def stylingBefore (blocks : List Block) (i : Nat) : Styling :=
  (blocks.take i).foldl Block.restyle .initial

/-- The commands of a block in front of its cell. -/
def Block.setUp (block : Block) : List Command :=
  (block.textColour.map .setTextColour).toList ++ (block.drawColour.map .setDrawColour).toList ++
    (block.fillColour.map .setFillColour).toList ++
    [.setFont block.family block.flags block.size, .moveTo block.x block.y]

/-- The command of a block behind its cell. -/
def Block.step (block : Block) : Command :=
  if block.breaksLine then .newLine block.cell.height else .advance block.cell.width

theorem Block.commands_eq (block : Block) :
    block.commands = block.setUp ++ [.cell block.cell, block.step] := by
  rw [commands, setUp, step, List.append_assoc _ _ [Command.cell block.cell, _]]
  rfl

namespace Builder

/-- The styles that a builder would hand on. -/
def styling (b : Builder) : Styling := ⟨b.textColour, b.drawColour, b.fontSize⟩

theorem styling_start (paper : Paper) : (start paper).styling = .initial := rfl

/-- The builder at the cell of a block. -/
def atCell (b : Builder) (block : Block) : Builder :=
  { b with
    textColour := (block.restyle b.styling).textColour
    drawColour := (block.restyle b.styling).drawColour
    fillColour := block.fillColour.getD b.fillColour
    font := .ofFamily block.family block.flags
    fontSize := (block.restyle b.styling).fontSize
    x := block.x
    y := block.y }

/-- The group of operations that the cell of a block draws. -/
def blockGroup (b : Builder) (block : Block) : List PageOp :=
  ((b.atCell block).withRoom block.cell.height).cellOps block.cell

theorem performAll_setUp (b : Builder) (block : Block) :
    canvas.performAll b block.setUp = b.atCell block := by
  obtain ⟨textColour, drawColour, fillColour, family, flags, size, x, y, cell, breaksLine⟩ := block
  cases textColour <;> cases drawColour <;> cases fillColour <;> rfl

theorem cellGroups_setUp (b : Builder) (block : Block) : b.cellGroups block.setUp = [] := by
  obtain ⟨textColour, drawColour, fillColour, family, flags, size, x, y, cell, breaksLine⟩ := block
  cases textColour <;> cases drawColour <;> cases fillColour <;> rfl

/-- A block draws one group. -/
theorem cellGroups_block (b : Builder) (block : Block) :
    b.cellGroups block.commands = [b.blockGroup block] := by
  have step : ∀ b : Builder, b.commandGroup block.step = [] := by
    intro b
    unfold Block.step
    split <;> rfl
  rw [Block.commands_eq, cellGroups_append, cellGroups_setUp, performAll_setUp, List.nil_append,
    cellGroups, cellGroups, step, cellGroups]
  rfl

theorem styling_withRoom (b : Builder) (height : Float32) :
    (b.withRoom height).styling = b.styling := by
  unfold withRoom
  split <;> rfl

/-- Behind a block the styles are those that were in force at its cell. -/
theorem styling_performAll_block (b : Builder) (block : Block) :
    (canvas.performAll b block.commands).styling = block.restyle b.styling := by
  have drawn : ((b.atCell block).drawCell block.cell).styling = block.restyle b.styling :=
    styling_withRoom (b.atCell block) block.cell.height
  have stepped : ∀ b : Builder, (canvas.perform b block.step).styling = b.styling := by
    intro b
    unfold Block.step
    split <;> rfl
  rw [Block.commands_eq, Canvas.performAll_append, performAll_setUp, Canvas.performAll_cons,
    Canvas.performAll_cons, Canvas.performAll_nil, stepped]
  exact drawn

theorem styling_performAll_blocks (b : Builder) (blocks : List Block) :
    (canvas.performAll b (blocks.flatMap Block.commands)).styling =
      blocks.foldl Block.restyle b.styling := by
  induction blocks generalizing b with
  | nil => rfl
  | cons block rest ih =>
    rw [List.flatMap_cons, Canvas.performAll_append, ih, styling_performAll_block, List.foldl_cons]

/-- Blocks draw one group each, and the group of a block is drawn behind the blocks before it. -/
theorem cellGroups_blocks (b : Builder) (blocks : List Block) (i : Nat) :
    (b.cellGroups (blocks.flatMap Block.commands))[i]? = blocks[i]?.map fun block =>
      (canvas.performAll b ((blocks.take i).flatMap Block.commands)).blockGroup block := by
  induction blocks generalizing b i with
  | nil => rfl
  | cons block rest ih =>
    rw [List.flatMap_cons, cellGroups_append, cellGroups_block, List.singleton_append]
    cases i with
    | zero => rfl
    | succ i =>
      rw [List.getElem?_cons_succ, List.getElem?_cons_succ, ih, List.take_succ_cons,
        List.flatMap_cons, Canvas.performAll_append]

theorem length_cellGroups_blocks (b : Builder) (blocks : List Block) :
    (b.cellGroups (blocks.flatMap Block.commands)).length = blocks.length := by
  induction blocks generalizing b with
  | nil => rfl
  | cons block rest ih =>
    rw [List.flatMap_cons, cellGroups_append, cellGroups_block, List.singleton_append,
      List.length_cons, ih, List.length_cons]

/-- Which of the styles that two builders hand on can be told from the group of a block. -/
theorem map_level_blockGroup_eq_iff (first second : Builder) {block : Block}
    (filled : block.cell.fill = true → block.fillColour.isSome) :
    (first.blockGroup block).map PageOp.level = (second.blockGroup block).map PageOp.level ↔
      (block.cell.border.isEmpty = true ∨
        (block.restyle first.styling).drawColour = (block.restyle second.styling).drawColour) ∧
      (block.cell.text.isEmpty = true ∨
        (block.restyle first.styling).textColour = (block.restyle second.styling).textColour ∧
        (block.restyle first.styling).fontSize = (block.restyle second.styling).fontSize) := by
  -- Making room moves a cell to another page and does not touch what its group is made of.
  have roomy : ∀ b : Builder, let here := (b.atCell block).withRoom block.cell.height
      here.x = block.x ∧ here.font = .ofFamily block.family block.flags ∧
        here.fillColour = block.fillColour.getD b.fillColour ∧
        here.styling = block.restyle b.styling := by
    intro b
    refine ⟨?_, ?_, ?_, styling_withRoom (b.atCell block) block.cell.height⟩
    all_goals unfold withRoom; split <;> rfl
  obtain ⟨firstX, firstFont, firstFill, firstStyling⟩ := roomy first
  obtain ⟨secondX, secondFont, secondFill, secondStyling⟩ := roomy second
  have sameFill : block.cell.fill = true →
      ((first.atCell block).withRoom block.cell.height).fillColour =
        ((second.atCell block).withRoom block.cell.height).fillColour := by
    intro fills
    obtain ⟨colour, present⟩ := Option.isSome_iff_exists.1 (filled fills)
    rw [firstFill, secondFill, present]
    rfl
  rw [blockGroup, blockGroup, map_level_cellOps_eq_iff (firstX.trans secondX.symm)
    (firstFont.trans secondFont.symm) sameFill, ← firstStyling, ← secondStyling]
  rfl

end Builder

/-! ## Drawn as by itself -/

/-- The group that the cell with a number draws on new pages, without heights. -/
def levelGroup? (paper : Paper) (commands : List Command) (i : Nat) : Option (List PageOp) :=
  ((Builder.start paper).cellGroups commands)[i]?.map (List.map PageOp.level)

/-- The cell of the block with a number comes out the same, up to its height on the page, when all
blocks are drawn and when that block alone is drawn on new pages. -/
def DrawnAlone (paper : Paper) (blocks : List Block) (i : Nat) : Prop :=
  levelGroup? paper (blocks.flatMap Block.commands) i =
    blocks[i]?.bind fun block => levelGroup? paper block.commands 0

instance (paper : Paper) (blocks : List Block) (i : Nat) : Decidable (DrawnAlone paper blocks i) :=
  inferInstanceAs (Decidable (_ = _))

/-- A block for whose cell it does not matter that it finds other styles than a new builder has: it
sets each style that the cell uses, unless it finds the one of a new builder. -/
structure Block.Independent (block : Block) (found : Styling) : Prop where
  border : block.cell.border.isEmpty = true ∨ block.drawColour.isSome = true ∨
    found.drawColour = .black
  text : block.cell.text.isEmpty = true ∨
    (block.textColour.isSome = true ∨ found.textColour = .black) ∧
      (0 < block.size ∨ found.fontSize = 12)

theorem Block.independent_iff (block : Block) (found : Styling) :
    block.Independent found ↔
      (block.cell.border.isEmpty = true ∨
        (block.restyle found).drawColour = (block.restyle .initial).drawColour) ∧
      (block.cell.text.isEmpty = true ∨
        (block.restyle found).textColour = (block.restyle .initial).textColour ∧
        (block.restyle found).fontSize = (block.restyle .initial).fontSize) := by
  -- A style comes out the same if it is set, and else if the one that was found is the initial one.
  have optional : ∀ (own : Option Colour) (found initial : Colour),
      own.getD found = own.getD initial ↔ own.isSome = true ∨ found = initial := by
    intro own found initial
    cases own <;> simp
  have positive : (block.restyle found).fontSize = (block.restyle .initial).fontSize ↔
      0 < block.size ∨ found.fontSize = 12 := by
    rw [restyle, restyle, Styling.initial]
    by_cases sized : 0 < block.size
    · simp [sized]
    · simp [sized]
  rw [positive, restyle, restyle, Styling.initial]
  dsimp only
  rw [optional, optional]
  exact ⟨fun alone => ⟨alone.border, alone.text⟩, fun both => ⟨both.1, both.2⟩⟩

/-- A block of which a filled cell sets its filling is drawn as by itself exactly if it is
independent of the styles that the blocks before it leave. -/
theorem drawnAlone_blocks_iff (paper : Paper) {blocks : List Block} {i : Nat} {block : Block}
    (place : blocks[i]? = some block)
    (filled : block.cell.fill = true → block.fillColour.isSome) :
    DrawnAlone paper blocks i ↔ block.Independent (stylingBefore blocks i) := by
  have found : (Builder.canvas.performAll (Builder.start paper)
      ((blocks.take i).flatMap Block.commands)).styling = stylingBefore blocks i := by
    rw [Builder.styling_performAll_blocks, Builder.styling_start, stylingBefore]
  rw [Block.independent_iff, ← found, ← Builder.styling_start paper,
    ← Builder.map_level_blockGroup_eq_iff _ _ filled, DrawnAlone, levelGroup?,
    Builder.cellGroups_blocks, place, Option.map_some, Option.map_some, Option.bind_some,
    levelGroup?, Builder.cellGroups_block, List.getElem?_cons_zero, Option.map_some,
    Option.some.injEq]

theorem Box.isSome_fillColour_block (box : Box) (originX originY : Float32)
    (fills : (box.block originX originY).cell.fill = true) :
    (box.block originX originY).fillColour.isSome = true := fills

/-- The pages of a document hold one group of operations for each of its boxes, in order. The group
of a box is the one that its own block draws on new pages, up to the height on the page, exactly if
for each style that its cell uses the block sets it or none of the boxes before it left another than
the one that new pages start from. -/
theorem drawnAlone_iff {text : String} {config : Config} {boxes : List Box}
    (laid : layoutDocument text config = .ok boxes) :
    ∃ blocks : List Block,
      blocks = boxes.map (Box.block config.marginLeft config.marginTop) ∧
      drawDocument text config = .ok (blocks.flatMap Block.commands) ∧
      (makePages (blocks.flatMap Block.commands) config).pages.flatten =
        ((Builder.start config.paper).cellGroups (blocks.flatMap Block.commands)).flatten ∧
      ((Builder.start config.paper).cellGroups (blocks.flatMap Block.commands)).length =
        boxes.length ∧
      ∀ (i : Nat) (block : Block), blocks[i]? = some block →
        (DrawnAlone config.paper blocks i ↔ block.Independent (stylingBefore blocks i)) := by
  obtain ⟨rules, -, placed⟩ := (layoutDocument_eq_ok_iff text config boxes).1 laid
  refine ⟨boxes.map (Box.block config.marginLeft config.marginTop), rfl, ?_, ?_, ?_, ?_⟩
  · rw [drawDocument, laid, Except.map, boxCommands_of_layout placed]
  · exact Builder.flatten_pages_start config.paper _
  · rw [Builder.length_cellGroups_blocks, List.length_map]
  · intro i block place
    rw [List.getElem?_map, Option.map_eq_some_iff] at place
    obtain ⟨box, boxAt, rfl⟩ := place
    have atBlock : (boxes.map (Box.block config.marginLeft config.marginTop))[i]? =
        some (box.block config.marginLeft config.marginTop) := by
      rw [List.getElem?_map, boxAt, Option.map_some]
    exact drawnAlone_blocks_iff config.paper atBlock (box.isSome_fillColour_block _ _)

/-- Two elements with a border, the first of them in red and the second in no colour. -/
def borderedPair : String :=
  "[\x7b\"name\":\"a\",\"text\":\"A\",\"style\":\x7b\"border\":\"1pt solid #ff0000\"\x7d\x7d," ++
    "\x7b\"name\":\"b\",\"text\":\"B\",\"style\":\x7b\"border\":\"1pt solid\"\x7d\x7d]"

/-- The blocks of boxes on paper with the usual margins. -/
def usualBlocks (boxes : List Box) : List Block :=
  boxes.map (Box.block ({} : Config).marginLeft ({} : Config).marginTop)

/-- The red of the first border shows in the second. -/
theorem carryover_borderedPair :
    ∃ boxes : List Box, layoutDocument borderedPair {} = .ok boxes ∧ boxes.length = 2 ∧
      DrawnAlone ({} : Config).paper (usualBlocks boxes) 0 ∧
      ¬ DrawnAlone ({} : Config).paper (usualBlocks boxes) 1 := by
  have outcome : (layoutDocument borderedPair {}).toOption.map (fun boxes =>
      decide (boxes.length = 2 ∧ DrawnAlone ({} : Config).paper (usualBlocks boxes) 0 ∧
        ¬ DrawnAlone ({} : Config).paper (usualBlocks boxes) 1)) = some true := by
    decide +kernel
  obtain ⟨boxes, laid, shown⟩ := exists_ok_of_map_toOption outcome
  exact ⟨boxes, laid, of_decide_eq_true shown⟩

theorem drawnAlone_borderedPair :
    ∃ boxes : List Box, layoutDocument borderedPair {} = .ok boxes ∧
      DrawnAlone ({} : Config).paper (usualBlocks boxes) 0 ∧
      ¬ DrawnAlone ({} : Config).paper (usualBlocks boxes) 1 ∧
      ∃ blocks : List Block,
        blocks = usualBlocks boxes ∧
        drawDocument borderedPair {} = .ok (blocks.flatMap Block.commands) ∧
        (makePages (blocks.flatMap Block.commands) {}).pages.flatten =
          ((Builder.start ({} : Config).paper).cellGroups
            (blocks.flatMap Block.commands)).flatten ∧
        ((Builder.start ({} : Config).paper).cellGroups
          (blocks.flatMap Block.commands)).length = boxes.length ∧
        ∀ (i : Nat) (block : Block), blocks[i]? = some block →
          (DrawnAlone ({} : Config).paper blocks i ↔
            block.Independent (stylingBefore blocks i)) := by
  obtain ⟨boxes, laid, -, first, second⟩ := carryover_borderedPair
  exact ⟨boxes, laid, first, second, drawnAlone_iff laid⟩

theorem not_forall_drawnAlone :
    ¬ ∀ (text : String) (config : Config) (boxes : List Box),
      layoutDocument text config = .ok boxes → ∀ i, i < boxes.length →
        DrawnAlone config.paper (boxes.map (Box.block config.marginLeft config.marginTop)) i := by
  intro all
  obtain ⟨boxes, laid, pair, -, second⟩ := carryover_borderedPair
  have within : 1 < boxes.length := by omega
  exact second (all borderedPair {} boxes laid 1 within)

end Folio
