import Folio.Proofs.DocumentTree
import Folio.Proofs.DrawBlocks
import Folio.Proofs.Placing

/-!
# What counts of a document

Of an element only its name, the effect of its style and its text count: documents whose elements
agree in these are drawn by the same commands wherever they are drawn
(`map_boxCommands_layout?_congr`). So two ways of writing a document come to the same if level by level
they give every element the same effect, and for one rule behind a directive that is a question of
what the two declare (`Rule.effect_toElement_congr`).
-/

namespace Folio

/-! ## One rule -/

theorem Rule.effect_ownStyle_congr {rule other : Rule}
    (declared : (Style.ofDeclarations rule.declarations).effect =
      (Style.ofDeclarations other.declarations).effect) :
    rule.ownStyle.effect = other.ownStyle.effect := by
  rw [ownStyle, ownStyle]
  exact Style.effect_completed_congr declared

/-- The same counts of two rules that declare the same behind directives that do. -/
theorem Rule.effect_toElement_congr {rule other : Rule} {directive otherDirective : Option Style}
    (own : rule.ownStyle.effect = other.ownStyle.effect) (text : rule.text = other.text)
    (behind : directive.map Style.effect = otherDirective.map Style.effect)
    (name : Option String) :
    (rule.toElement name directive).effect = (other.toElement name otherDirective).effect := by
  have style : (rule.toElement name directive).style.effect =
      (other.toElement name otherDirective).style.effect := by
    cases directive with
    | none =>
      rw [Option.map_none, eq_comm, Option.map_eq_none_iff] at behind
      rw [behind, style_toElement_none, style_toElement_none, own]
    | some given =>
      rw [Option.map_some, eq_comm, Option.map_eq_some_iff] at behind
      obtain ⟨otherGiven, rfl, same⟩ := behind
      rw [style_toElement_some, style_toElement_some]
      exact Style.effect_merged_congr own same.symm
  rw [Element.effect, Element.effect, style]
  exact congrArg (fun text => (name, _, text)) text

/-- The first directive of a level has the same effect if the one before it has, or its own style. -/
theorem map_effect_first_congr {directive otherDirective : Option Style} {own other : Style}
    (behind : directive.map Style.effect = otherDirective.map Style.effect)
    (same : own.effect = other.effect) :
    (some (directive.getD own)).map Style.effect =
      (some (otherDirective.getD other)).map Style.effect := by
  rw [Option.map_some, Option.map_some, ← Option.getD_map Style.effect,
    ← Option.getD_map Style.effect, behind, same]

/-! ## What is drawn -/

section Relabelling

variable {change : Numbered Item → Numbered Item}

theorem Box.commands_mapItem
    (keeps : ∀ node, (change node).value.properties = node.value.properties)
    (texts : ∀ node, (change node).value.element.text = node.value.element.text)
    (originX originY : Float32) (box : Box) :
    (box.mapItem change).commands originX originY = box.commands originX originY := by
  have cell : (box.mapItem change).cell = box.cell := by
    rw [Box.cell, Box.cell, Box.properties_mapItem keeps]
    exact congrArg (Cell.mk box.width box.height · _ _ _) (congrArg (·.getD "") (texts box.item))
  unfold Box.commands Box.breaksLine
  rw [cell, Box.properties_mapItem keeps]
  rfl

/-- Commands read the properties and the texts of items, and nothing else of them. -/
theorem map_boxCommands_layout?_map
    (keeps : ∀ node, (change node).value.properties = node.value.properties)
    (texts : ∀ node, (change node).value.element.text = node.value.element.text)
    (contentWidth originX originY : Float32) (items : Items) :
    (layout? contentWidth (items.map change)).map (boxCommands originX originY) =
      (layout? contentWidth items).map (boxCommands originX originY) := by
  have drawn : Box.drawn ∘ Box.mapItem change = Box.drawn := by
    funext box
    rw [Function.comp_apply, Box.drawn, Box.drawn, Box.properties_mapItem keeps]
  have commands : (fun box => (Box.mapItem change box).commands originX originY) =
      Box.commands originX originY := funext (Box.commands_mapItem keeps texts originX originY)
  rw [layout?_map keeps, Option.map_map]
  congr 1
  funext boxes
  rw [Function.comp_apply, boxCommands_eq_flatMap, boxCommands_eq_flatMap, List.filter_map,
    List.flatMap_map, drawn, commands]

end Relabelling

/-- What is drawn of items does not depend on their styles. -/
theorem map_boxCommands_layout?_withoutStyle (contentWidth originX originY : Float32)
    (items : Items) :
    (layout? contentWidth (items.map Numbered.withoutStyle)).map (boxCommands originX originY) =
      (layout? contentWidth items).map (boxCommands originX originY) := by
  have keeps : ∀ node : Numbered Item, node.withoutStyle.value.properties = node.value.properties :=
    fun _ => rfl
  have texts : ∀ node : Numbered Item,
      node.withoutStyle.value.element.text = node.value.element.text := fun _ => rfl
  exact map_boxCommands_layout?_map keeps texts contentWidth originX originY items

/-- Documents of whose elements the same counts are drawn by the same commands. -/
theorem map_boxCommands_layout?_congr {first second : Forest Rule}
    (same : (elementsBehind none first).map Element.effect =
      (elementsBehind none second).map Element.effect)
    (contentWidth originX originY : Float32) :
    (layout? contentWidth (itemsOfRules first)).map (boxCommands originX originY) =
      (layout? contentWidth (itemsOfRules second)).map (boxCommands originX originY) := by
  have elements : (elementsOf first).map (Numbered.map Element.effect) =
      (elementsOf second).map (Numbered.map Element.effect) := by
    rw [elementsOf, elementsOf, ← Forest.number_map, ← Forest.number_map, same]
  have items : (itemsOfRules first).map Numbered.withoutStyle =
      (itemsOfRules second).map Numbered.withoutStyle := itemsBelow_congr_effect elements rfl
  rw [← map_boxCommands_layout?_withoutStyle, items, map_boxCommands_layout?_withoutStyle]

end Folio
