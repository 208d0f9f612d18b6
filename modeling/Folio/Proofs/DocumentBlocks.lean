import Mathlib.Data.List.Basic
import Folio.Proofs.DocumentTree
import Folio.Proofs.DrawBlocks
import Folio.Proofs.Placing

/-!
# The commands of a document

Whatever a style document says, drawing it cannot fail once it has been read and the content area
has a width: a value that means nothing produces no property, and the worst that comes of it is a
call less. What is drawn is one block for each element rule outside of directives, in the order in
which they are written (`drawDocument_eq_blocks`).

The invariant behind it is that every item has a font. So no box is left out, and the font call is
the one styling call that no block lacks.
-/

namespace Folio

/-! ## Every box is drawn -/

theorem Box.drawn_of_isSome_font {box : Box} (lettered : box.properties.font.isSome) :
    box.drawn = true := by
  rw [Box.drawn, Bool.not_eq_true', Bool.eq_false_iff]
  intro empty
  rw [Properties.isEmpty_iff] at empty
  rw [empty] at lettered
  cases lettered

/-- The boxes of a document all have a font. -/
theorem isSome_font_of_mem_layout {contentWidth : Float32} {rules : Forest Rule}
    {boxes : List Box} (laid : layout? contentWidth (itemsOfRules rules) = some boxes) {box : Box}
    (member : box ∈ boxes) : box.properties.font.isSome := by
  have inTree : box.item ∈ (itemsOfRules rules).preorder := by
    rw [← map_item_layout? laid]
    exact List.mem_map_of_mem member
  exact isSome_font_of_mem_itemsOfRules inTree

/-- What is recorded of the boxes of a document is the block of each of them. -/
theorem boxCommands_of_layout {contentWidth : Float32} {rules : Forest Rule} {boxes : List Box}
    (laid : layout? contentWidth (itemsOfRules rules) = some boxes) (originX originY : Float32) :
    boxCommands originX originY boxes =
      (boxes.map (Box.block originX originY)).flatMap Block.commands := by
  have all : boxes.filter Box.drawn = boxes :=
    List.filter_eq_self.2 fun box member =>
      Box.drawn_of_isSome_font (isSome_font_of_mem_layout laid member)
  rw [boxCommands_eq_flatMap, all, List.flatMap_map]
  exact List.flatMap_congr fun box member =>
    Box.commands_eq_block (isSome_font_of_mem_layout laid member) originX originY

/-! ## One block for each element rule -/

/-- What a block has to do with the rule it comes from and with the item of that rule. -/
structure Block.Draws (block : Block) (rule : Rule) (node : Numbered Item) : Prop where
  /-- The item is that of the rule, which is an element rule. -/
  own : rule.kind = .element node.value.element.name
  /-- The cell shows the text of the rule. -/
  text : block.cell.text = rule.text.getD ""
  /-- The cell is filled exactly when the block sets the fill colour. -/
  fill : block.cell.fill = true ↔ ∃ colour, .setFillColour colour ∈ block.commands
  /-- The line breaks behind the cell exactly when the display of the item came to a block. -/
  breaks : block.breaksLine = true ↔ node.value.properties.lineBreak = some true
  /-- The display came to a block exactly when that is what the style of the item says. -/
  display : block.breaksLine = true ↔
    (node.value.element.style.text? "display").map Text.lower = some "block"

theorem Box.fill_block (box : Box) (originX originY : Float32) :
    (box.block originX originY).cell.fill = true ↔
      ∃ colour, .setFillColour colour ∈ (box.block originX originY).commands := by
  simp only [Block.setFillColour_mem_commands]
  exact Option.isSome_iff_exists

theorem Box.breaksLine_iff (box : Box) :
    box.breaksLine = true ↔ box.item.value.properties.lineBreak = some true := by
  rw [Box.breaksLine, Properties.breaksLine, beq_iff_eq]
  rfl

/-- The block of a box draws the rule that the box comes from. -/
theorem Box.block_draws {rules : Forest Rule} {box : Box} {rule : Rule}
    (member : box.item ∈ (itemsOfRules rules).preorder)
    (source : (Rule.Kind.element box.item.value.element.name, box.item.value.element.text) =
      (rule.kind, rule.text)) (originX originY : Float32) :
    (box.block originX originY).Draws rule box.item where
  own := (congrArg Prod.fst source).symm
  text := congrArg (fun pair => pair.2.getD "") source
  fill := box.fill_block originX originY
  breaks := box.breaksLine_iff
  display := by
    obtain ⟨above, compiled⟩ := properties_of_mem_itemsBelow member
    have breaks : (box.block originX originY).breaksLine = true ↔ _ := box.breaksLine_iff
    rw [breaks, compiled, lineBreak_propertiesOf]
    cases box.item.value.element.style.text? "display" with
    | none => simp
    | some value => simp

/-- A document that can be read, on paper with room between the margins, is drawn, and its commands
are the blocks of its element rules outside of directives, in pre-order, one for each. -/
theorem drawDocument_eq_blocks {text : String} {config : Config} {rules : Forest Rule}
    (read : readDocument text = .ok rules) (area : isContentWidth config.contentWidth = true) :
    ∃ blocks : List Block,
      drawDocument text config = .ok (blocks.flatMap Block.commands) ∧
      blocks.length = (elementRules rules).length ∧
      (itemsOfRules rules).preorder.length = (elementRules rules).length ∧
      ∀ (i : Nat) (block : Block) (rule : Rule) (node : Numbered Item),
        blocks[i]? = some block → (elementRules rules)[i]? = some rule →
          (itemsOfRules rules).preorder[i]? = some node → block.Draws rule node := by
  obtain ⟨boxes, laid⟩ : ∃ boxes, layout? config.contentWidth (itemsOfRules rules) = some boxes :=
    ⟨_, if_pos area⟩
  have items := map_item_layout? laid
  have sources := map_preorder_itemsOfRules rules
  have lengths : (itemsOfRules rules).preorder.length = (elementRules rules).length := by
    simpa only [List.length_map] using congrArg List.length sources
  refine ⟨boxes.map (Box.block config.marginLeft config.marginTop), ?_, ?_, lengths, ?_⟩
  · rw [drawDocument, (layoutDocument_eq_ok_iff text config boxes).2 ⟨rules, read, laid⟩,
      Except.map, boxCommands_of_layout laid]
  · rw [List.length_map, ← lengths, ← items, List.length_map]
  · intro i block rule node blockAt ruleAt nodeAt
    rw [List.getElem?_map, Option.map_eq_some_iff] at blockAt
    obtain ⟨box, boxAt, rfl⟩ := blockAt
    have same : box.item = node := by
      rw [← items, List.getElem?_map, boxAt] at nodeAt
      exact Option.some.inj nodeAt
    subst same
    have source := congrArg (·[i]?) sources
    simp only [List.getElem?_map, nodeAt, ruleAt, Option.map_some, Option.some.injEq] at source
    exact Box.block_draws (List.mem_of_getElem? nodeAt) source _ _

/-- A document of three elements: a directive with a rule below it that is lost, a nested element,
and values of which hardly one means anything. -/
def malformedDocument : String :=
  "[\x7b\"name\":\"*\",\"style\":\x7b\"Display\":\"BLOCK\"\x7d," ++
    "\"children\":[\x7b\"name\":\"lost\"\x7d]\x7d," ++
    "\x7b\"name\":\"a\",\"text\":\"A\"," ++
    "\"style\":\x7b\"color\":\"F00\",\"width\":\"wide\",\"font-size\":\"\"\x7d," ++
    "\"children\":[\x7b\"name\":\"*\"\x7d,\x7b\"name\":\"b\"\x7d]\x7d," ++
    "\x7b\"text\":\"C\",\"style\":\x7b\"background-color\":\"none\",\"border\":\"x y\"\x7d\x7d]"

theorem drawDocument_malformedDocument :
    ∃ rules, readDocument malformedDocument = .ok rules ∧
      isContentWidth ({} : Config).contentWidth = true ∧
      (elementRules rules).map Rule.name = [some "a", some "b", none] ∧
      ∃ blocks : List Block,
        drawDocument malformedDocument {} = .ok (blocks.flatMap Block.commands) ∧
        blocks.length = (elementRules rules).length ∧
        (itemsOfRules rules).preorder.length = (elementRules rules).length ∧
        ∀ (i : Nat) (block : Block) (rule : Rule) (node : Numbered Item),
          blocks[i]? = some block → (elementRules rules)[i]? = some rule →
            (itemsOfRules rules).preorder[i]? = some node → block.Draws rule node := by
  have names : (readDocument malformedDocument).toOption.map
      (fun rules => (elementRules rules).map Rule.name) = some [some "a", some "b", none] := by
    decide +kernel
  have area : isContentWidth ({} : Config).contentWidth = true := by decide +kernel
  obtain ⟨rules, read, named⟩ := exists_ok_of_map_toOption names
  exact ⟨rules, read, area, named, drawDocument_eq_blocks read area⟩

end Folio
