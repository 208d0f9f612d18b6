import Mathlib.Data.List.Forall2
import Folio.Proofs.Placing

/-!
# Items and boxes by their positions

A node of a forest of items lies below the items of the elements that its element lies below
(`positions_itemsBelow`), so what is known of a position among the elements is known of the position
among the items. The box of a node depends on where it lies and, beyond that, only on how far its
row and its line have come (`forall₂_boxOf_place`).
-/

namespace Folio

/-! ## Items -/

/-- The items of elements that lie one below the other, the lowest first. -/
def itemPath : List (Numbered Element) → List (Numbered Item)
  | [] => []
  | node :: above => ⟨node.id, node.value.toItem (above.map (·.value.style))⟩ :: itemPath above

/-- The position of the item of an element. -/
def Position.toItem (node : Position (Numbered Element)) : Position (Numbered Item) where
  above := itemPath node.above
  value := ⟨node.value.id, node.value.value.toItem (node.above.map (·.value.style))⟩
  below := itemsBelow ((node.value :: node.above).map (·.value.style)) node.below

@[simp] theorem Position.path_toItem (node : Position (Numbered Element)) :
    node.toItem.value :: node.toItem.above = itemPath (node.value :: node.above) := rfl

@[simp] theorem Position.properties_toItem (node : Position (Numbered Element)) :
    node.toItem.value.value.properties = propertiesOf node.styleContext := rfl

/-- An item stands where its element stands. -/
theorem positions_itemsBelow (above : List (Numbered Element)) (elements : Elements) :
    (itemsBelow (above.map (·.value.style)) elements).positions (itemPath above) =
      (elements.positions above).map Position.toItem := by
  induction elements generalizing above with
  | nil => rfl
  | cons node below rest ihBelow ihRest =>
    have inner := ihBelow (node :: above)
    rw [List.map_cons] at inner
    rw [itemsBelow, Forest.positions, Forest.positions, ihRest, List.map_cons, List.map_append,
      ← inner]
    rfl

/-- The item with a number in a document. -/
theorem position?_itemsOf (elements : Elements) (number : Nat) :
    (itemsOf elements).position? number = (elements.position? number).map Position.toItem := by
  rw [Forest.position?, Forest.position?, ← List.getElem?_map]
  exact congrArg (·[number]?) (positions_itemsBelow [] elements)

/-! ## Boxes -/

/-- Every box is that of its position, wherever its row and its line have come to. -/
theorem forall₂_boxOf_place (contentWidth : Float32) (above : List (Numbered Item))
    (baseX runningX : Float32) (line : Line) (items : Items) :
    List.Forall₂
      (fun box node => ∃ runningX line,
        box = boxOf contentWidth (node.above.map (·.value.properties)) runningX line node.value)
      (place contentWidth (above.map (·.value.properties)) baseX runningX line items).1
      (items.positions above) := by
  induction items generalizing above baseX runningX line with
  | nil => exact .nil
  | cons node below rest ihBelow ihRest =>
    rw [place, Forest.positions]
    exact .cons ⟨runningX, line, rfl⟩ (List.rel_append (ihBelow (node :: above) ..) (ihRest ..))

/-- The box of the item with a number. -/
theorem exists_boxOf_of_position? {items : Items} {number : Nat} {node : Position (Numbered Item)}
    (found : items.position? number = some node) (contentWidth : Float32) :
    ∃ runningX line, (placeAll contentWidth items).1[number]? = some
      (boxOf contentWidth (node.above.map (·.value.properties)) runningX line node.value) := by
  have boxes := forall₂_boxOf_place contentWidth [] 0 0 {} items
  rw [List.map_nil, ← placeAll] at boxes
  obtain ⟨inside, value⟩ := List.getElem?_eq_some_iff.1 found
  have placed : number < (placeAll contentWidth items).1.length := by
    rwa [boxes.length_eq]
  obtain ⟨runningX, line, same⟩ := boxes.get placed inside
  refine ⟨runningX, line, List.getElem?_eq_some_iff.2 ⟨placed, ?_⟩⟩
  rw [← value]
  exact same

end Folio
