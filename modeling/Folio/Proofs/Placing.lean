import Folio.Layout

/-!
# Boxes and their items

`place` gives one box to every item of a forest, in pre-order, and reads nothing of an item but its
properties. `map_item_place` is the first half. The second half is `place_map`: a change of the
items that keeps their properties goes through the layout untouched, so two documents whose items
have the same properties are laid out alike whatever else they hold.
-/

namespace Folio

/-! ## One box for each item -/

@[simp] theorem item_boxOf (contentWidth : Float32) (above : List Properties)
    (runningX : Float32) (line : Line) (node : Numbered Item) :
    (boxOf contentWidth above runningX line node).item = node := rfl

@[simp] theorem drawn_boxOf (contentWidth : Float32) (above : List Properties)
    (runningX : Float32) (line : Line) (node : Numbered Item) :
    (boxOf contentWidth above runningX line node).drawn = !node.value.properties.isEmpty := rfl

@[simp] theorem breaksLine_boxOf (contentWidth : Float32) (above : List Properties)
    (runningX : Float32) (line : Line) (node : Numbered Item) :
    (boxOf contentWidth above runningX line node).breaksLine = node.value.properties.breaksLine :=
  rfl

@[simp] theorem height_boxOf (contentWidth : Float32) (above : List Properties)
    (runningX : Float32) (line : Line) (node : Numbered Item) :
    (boxOf contentWidth above runningX line node).height =
      node.value.properties.height.getD defaultHeight := rfl

/-- The boxes are those of the items in pre-order, each item once. -/
theorem map_item_place (contentWidth : Float32) (above : List Properties)
    (baseX runningX : Float32) (line : Line) (items : Items) :
    (place contentWidth above baseX runningX line items).1.map Box.item = items.preorder := by
  induction items generalizing above baseX runningX line with
  | nil => rfl
  | cons node below rest ihBelow ihRest =>
    rw [place, Forest.preorder]
    dsimp only
    rw [List.cons_append, List.map_cons, List.map_append, ihBelow, ihRest, item_boxOf]

/-- A document is laid out in an area of any width that boxes can be laid out in, and in no
other. -/
theorem layout?_eq_some_iff {contentWidth : Float32} {items : Items} {boxes : List Box} :
    layout? contentWidth items = some boxes ↔
      isContentWidth contentWidth = true ∧ (placeAll contentWidth items).1 = boxes := by
  rw [layout?, Option.ite_none_right_eq_some, Option.some_inj]

theorem map_item_layout? {contentWidth : Float32} {items : Items} {boxes : List Box}
    (laid : layout? contentWidth items = some boxes) : boxes.map Box.item = items.preorder := by
  obtain ⟨-, rfl⟩ := layout?_eq_some_iff.1 laid
  exact map_item_place _ _ _ _ _ items

/-! ## What the layout does not read -/

/-- The box with its item changed. -/
def Box.mapItem (change : Numbered Item → Numbered Item) (box : Box) : Box :=
  { box with item := change box.item }

section Relabelling

variable {change : Numbered Item → Numbered Item}

theorem Box.properties_mapItem
    (keeps : ∀ node, (change node).value.properties = node.value.properties) (box : Box) :
    (box.mapItem change).properties = box.properties :=
  keeps box.item

theorem Box.lineAfter_mapItem
    (keeps : ∀ node, (change node).value.properties = node.value.properties) (box : Box)
    (anchored : Bool) (line : Line) :
    (box.mapItem change).lineAfter anchored line = box.lineAfter anchored line := by
  simp only [Box.lineAfter, Box.drawn, Box.breaksLine, Box.properties_mapItem keeps]
  rfl

theorem Box.runningAfter_mapItem
    (keeps : ∀ node, (change node).value.properties = node.value.properties) (box : Box)
    (baseX runningX : Float32) :
    (box.mapItem change).runningAfter baseX runningX = box.runningAfter baseX runningX := by
  simp only [Box.runningAfter, Box.drawn, Box.breaksLine, Box.properties_mapItem keeps]
  rfl

theorem boxOf_change
    (keeps : ∀ node, (change node).value.properties = node.value.properties)
    (contentWidth : Float32) (above : List Properties) (runningX : Float32) (line : Line)
    (node : Numbered Item) :
    boxOf contentWidth above runningX line (change node) =
      (boxOf contentWidth above runningX line node).mapItem change := by
  simp only [boxOf, Box.mapItem, keeps]

/-- A change of the items that keeps their properties changes the boxes in the same way, and
neither a place nor a size nor the line behind them. -/
theorem place_map (keeps : ∀ node, (change node).value.properties = node.value.properties)
    (contentWidth : Float32) (above : List Properties) (baseX runningX : Float32) (line : Line)
    (items : Items) :
    place contentWidth above baseX runningX line (items.map change) =
      ((place contentWidth above baseX runningX line items).1.map (Box.mapItem change),
        (place contentWidth above baseX runningX line items).2) := by
  induction items generalizing above baseX runningX line with
  | nil => rfl
  | cons node below rest ihBelow ihRest =>
    rw [Forest.map, place, place]
    dsimp only
    rw [keeps, boxOf_change keeps, Box.lineAfter_mapItem keeps, Box.runningAfter_mapItem keeps,
      ihBelow, ihRest]
    simp only [List.cons_append, List.map_cons, List.map_append]
    rfl

theorem layout?_map (keeps : ∀ node, (change node).value.properties = node.value.properties)
    (contentWidth : Float32) (items : Items) :
    layout? contentWidth (items.map change) =
      (layout? contentWidth items).map (List.map (Box.mapItem change)) := by
  unfold layout? placeAll
  rw [place_map keeps]
  split <;> rfl

end Relabelling

end Folio
