import Folio.Proofs.Causality
import Folio.Proofs.ItemTable

/-!
# The table of boxes

The last table holds the boxes. It has a slot for every number before anything is placed, and a list
of the numbers in the order of placing. Boxes are placed by the table of items, level by level; all
that is known of a node, also the properties above it, is looked up there (`ItemTable.place?`).

Placing by the table is placing by the forest, with every box put into its slot
(`ItemTable.place?_eq`). The numbers of the forest then say that every slot is filled, once and in
order, whatever properties the items have (`layout?_itemTable`).
-/

namespace Folio

/-! ## Slots -/

/-- The boxes that were placed: a slot for every number, and the numbers in the order of placing. -/
structure BoxTable where
  slots : List (Option Box)
  order : List Nat

namespace BoxTable

/-- As many free slots as are asked for. -/
def free (count : Nat) : BoxTable :=
  ⟨List.replicate count none, []⟩

/-- Puts a box into the slot of its number; none if there is no such slot. -/
def put? (boxes : BoxTable) (box : Box) : Option BoxTable :=
  if box.item.id < boxes.slots.length then
    some ⟨boxes.slots.set box.item.id (some box), boxes.order ++ [box.item.id]⟩
  else none

/-- The box in the slot of a number. -/
def get? (boxes : BoxTable) (id : Nat) : Option Box :=
  boxes.slots[id]?.join

/-- The boxes in the order of placing. -/
def boxes (boxes : BoxTable) : List Box :=
  boxes.order.filterMap boxes.get?

/-- The table in which the given boxes were placed, each in the next slot. -/
def ofBoxes (boxes : List Box) : BoxTable :=
  ⟨boxes.map some, List.range boxes.length⟩

theorem put?_next (before : List (Option Box)) (free : Nat) (order : List Nat) (box : Box)
    (next : box.item.id = before.length) :
    put? ⟨before ++ List.replicate (free + 1) none, order⟩ box =
      some ⟨before ++ [some box] ++ List.replicate free none, order ++ [box.item.id]⟩ := by
  have slot : box.item.id < (before ++ List.replicate (free + 1) (none : Option Box)).length := by
    rw [List.length_append, List.length_replicate, next]
    omega
  rw [put?, if_pos slot, next, List.set_append_right before.length _ (Nat.le_refl _), Nat.sub_self,
    List.replicate_succ, List.set_cons_zero, List.append_assoc, List.singleton_append]

/-- Boxes whose numbers go on from the filled slots fill the free ones. -/
theorem foldlM_put? {boxes : List Box} {before : List (Option Box)}
    (numbers : boxes.map (·.item.id) = List.range' before.length boxes.length)
    (order : List Nat) :
    boxes.foldlM put? ⟨before ++ List.replicate boxes.length none, order⟩ =
      some ⟨before ++ boxes.map some, order ++ boxes.map (·.item.id)⟩ := by
  induction boxes generalizing before order with
  | nil => rw [List.foldlM_nil, List.length_nil, List.replicate_zero, List.map_nil, List.map_nil,
      List.append_nil, List.append_nil]; rfl
  | cons box boxes ih =>
    rw [List.map_cons, List.length_cons, List.range'_succ, List.cons.injEq] at numbers
    obtain ⟨next, others⟩ := numbers
    rw [List.foldlM_cons, List.length_cons, put?_next before boxes.length order box next]
    refine (ih ?_ _).trans ?_
    · rw [List.length_append, List.length_singleton, others]
    · rw [List.append_assoc, List.append_assoc]
      rfl

/-- Boxes that are numbered from nought on fill a free table. -/
theorem foldlM_put?_free {boxes : List Box}
    (numbers : boxes.map (·.item.id) = List.range boxes.length) :
    boxes.foldlM put? (free boxes.length) = some (ofBoxes boxes) := by
  have filled := @foldlM_put? boxes [] (by rw [numbers]; exact List.range_eq_range') []
  rwa [List.nil_append, List.nil_append, List.nil_append, numbers] at filled

theorem get?_ofBoxes (boxes : List Box) (id : Nat) : (ofBoxes boxes).get? id = boxes[id]? := by
  rw [get?, ofBoxes, List.getElem?_map]
  cases boxes[id]? <;> rfl

theorem boxes_ofBoxes (placed : List Box) : (ofBoxes placed).boxes = placed := by
  have slots : (ofBoxes placed).get? = fun id => placed[id]? := funext (get?_ofBoxes placed)
  have found : (List.range placed.length).map (fun id => placed[id]?) = placed.map some := by
    refine List.ext_getElem (by rw [List.length_map, List.length_map, List.length_range]) ?_
    intro id inside _
    rw [List.length_map, List.length_range] at inside
    rw [List.getElem_map, List.getElem_map, List.getElem_range, List.getElem?_eq_getElem inside]
  rw [boxes, slots]
  calc (List.range placed.length).filterMap (fun id => placed[id]?)
      = ((List.range placed.length).map fun id => placed[id]?).filterMap id := by
        rw [List.filterMap_map, Function.id_comp]
    _ = (placed.map some).filterMap id := by rw [found]
    _ = placed := by rw [List.filterMap_map, Function.id_comp, List.filterMap_some]

end BoxTable

/-! ## Placing by the table of items -/

namespace ItemTable

/-- Places the items with the given numbers and all that is below them, by a table of items; `place`
says where. None if the table has no item with one of the numbers, or the items do not come to an
end in the given number of steps. -/
def place? (table : ItemTable) (contentWidth : Float32) :
    Nat → Float32 → Float32 → Line → BoxTable → List Nat → Option (BoxTable × Line)
  | _, _, _, line, boxes, [] => some (boxes, line)
  | 0, _, _, _, _, _ :: _ => none
  | steps + 1, baseX, runningX, line, boxes, id :: siblings => do
    let row ← table.rows[id]?
    let item ← table.item? id
    let above ← table.propertiesAbove? id
    let box := boxOf contentWidth above runningX line item
    let put ← boxes.put? box
    let line := box.lineAfter ((row.properties :: above).any Properties.anchors) line
    let inner ← place? table contentWidth steps box.x box.x line put row.children
    place? table contentWidth steps baseX (box.runningAfter baseX runningX) inner.2 inner.1 siblings

/-- Lays out a table of items in an area of a width; none if nothing can be laid out there. -/
def layout? (table : ItemTable) (contentWidth : Float32) : Option BoxTable :=
  if isContentWidth contentWidth then
    (table.place? contentWidth table.rows.length 0 0 {} (.free table.rows.length)
      table.roots).map Prod.fst
  else none

/-- A table has a node at its number, with its links, and the properties above it on the way up. -/
structure Shows (table : ItemTable) (node : Position (Numbered Item)) : Prop where
  row : table.rows[node.value.id]? = some node.itemRow
  item : table.item? node.value.id = some node.value
  above : table.propertiesAbove? node.value.id = some (node.above.map (·.value.properties))

/-- Placing by a table puts the boxes of the forest, one after the other, into their slots. -/
theorem place?_eq {table : ItemTable} {items : Items} {above : List (Numbered Item)}
    (shows : ∀ node ∈ items.positions above, table.Shows node) (contentWidth : Float32)
    (steps : Nat) (baseX runningX : Float32) (line : Line) (boxes : BoxTable) :
    table.place? contentWidth (items.size + steps) baseX runningX line boxes
        (items.roots.map Numbered.id) =
      ((place contentWidth (above.map (·.value.properties)) baseX runningX line items).1.foldlM
          BoxTable.put? boxes).map fun boxes =>
        (boxes, (place contentWidth (above.map (·.value.properties)) baseX runningX line items).2) := by
  induction items generalizing above steps baseX runningX line boxes with
  | nil =>
    rw [Forest.roots, List.map_nil, place?, place]
    rfl
  | cons node below rest ihBelow ihRest =>
    have here := shows ⟨above, node, below⟩ List.mem_cons_self
    have inBelow : ∀ node' ∈ below.positions (node :: above), table.Shows node' :=
      fun node' member =>
        shows node' (List.mem_cons_of_mem _ (List.mem_append_left _ member))
    have inRest : ∀ node' ∈ rest.positions above, table.Shows node' :=
      fun node' member =>
        shows node' (List.mem_cons_of_mem _ (List.mem_append_right _ member))
    have count : 1 + below.size + rest.size + steps =
        below.size + (rest.size + steps) + 1 := by omega
    have count' : below.size + (rest.size + steps) = rest.size + (below.size + steps) := by omega
    obtain ⟨row, item, properties⟩ := here
    dsimp only at row item properties
    rw [Forest.size, Forest.roots, List.map_cons, count, place?, row, item, properties, place]
    dsimp only [Option.bind_eq_bind, Option.bind_some, Position.itemRow]
    generalize boxOf contentWidth _ runningX line node = box
    generalize box.lineAfter _ line = behind
    rw [List.cons_append, List.foldlM_cons]
    dsimp only [Option.bind_eq_bind]
    cases boxes.put? box with
    | none => rfl
    | some put =>
      have inner := ihBelow inBelow (rest.size + steps) box.x box.x behind put
      rw [List.map_cons] at inner
      rw [Option.bind_some, Option.bind_some, List.foldlM_append, inner]
      cases (place contentWidth _ box.x box.x behind below).1.foldlM BoxTable.put? put with
      | none => rfl
      | some filled =>
        rw [Option.map_some, Option.bind_some, count', ihRest inRest (below.size + steps)]
        rfl

/-- Rows that hold the items of a forest show its nodes. -/
theorem shows_of_rows {table : ItemTable} {items : Items}
    (rows : ∀ node ∈ items.positions [], table.rows[node.value.id]? = some node.itemRow)
    (elements : ∀ node ∈ items.positions [],
      table.element? node.value.id = some node.value.value.element)
    (length : items.size ≤ table.rows.length) {node : Position (Numbered Item)}
    (member : node ∈ items.positions []) : table.Shows node := by
  refine ⟨rows node member, ?_, ?_⟩
  · rw [item?, rows node member, elements node member]
    rfl
  · rw [propertiesAbove?, rows node member]
    refine goUp?_eq (fun node member => ?_) member length
    rw [rows node member]
    rfl

end ItemTable

/-! ## Properties of one's own -/

/-- Gives an item the properties that are assigned to its number. -/
def assignTo (properties : Nat → Properties) (node : Numbered Item) : Numbered Item :=
  { node with value := { node.value with properties := properties node.id } }

/-- Gives every item the properties that are assigned to its number. -/
def Items.assign (items : Items) (properties : Nat → Properties) : Items :=
  items.map (assignTo properties)

/-- Gives every row the properties that are assigned to its number. -/
def ItemTable.assign (table : ItemTable) (properties : Nat → Properties) : ItemTable :=
  { table with rows := table.rows.mapIdx fun id row => { row with properties := properties id } }

section Assign

variable (rules : Forest Rule) (properties : Nat → Properties)

theorem roots_assign (items : Items) :
    (items.assign properties).roots.map Numbered.id = items.roots.map Numbered.id := by
  induction items with
  | nil => rfl
  | cons node below rest _ ihRest =>
    rw [Items.assign, Forest.map, Forest.roots, Forest.roots, List.map_cons, List.map_cons,
      ← Items.assign, ihRest]
    rfl

theorem itemRow_assign (node : Position (Numbered Item)) :
    (node.map (assignTo properties)).itemRow =
      { node.itemRow with properties := properties node.value.id } := by
  have parent : (node.above.map (assignTo properties)).head?.map Numbered.id =
      node.above.head?.map Numbered.id := by
    rw [List.head?_map, Option.map_map]
    rfl
  have children := roots_assign properties node.below
  rw [Items.assign] at children
  rw [Position.itemRow, Position.itemRow, Position.map]
  dsimp only
  rw [parent, children]
  rfl

theorem properties_of_mem_assign {items : Items} {node : Numbered Item}
    (member : node ∈ Forest.preorder (items.assign properties)) :
    node.value.properties = properties node.id := by
  rw [Items.assign, Forest.preorder_map] at member
  obtain ⟨source, -, rfl⟩ := List.mem_map.1 member
  rfl

theorem size_assign (items : Items) : (items.assign properties).size = items.size :=
  Forest.size_map _ items

theorem length_rows_assign (table : ItemTable) :
    (table.assign properties).rows.length = table.rows.length :=
  List.length_mapIdx

theorem getElem?_rows_assign (table : ItemTable) (id : Nat) :
    (table.assign properties).rows[id]? =
      table.rows[id]?.map fun row => { row with properties := properties id } :=
  List.getElem?_mapIdx

/-- What an item is made of does not depend on its properties. -/
theorem element?_assign (table : ItemTable) (id : Nat) :
    (table.assign properties).element? id = table.element? id := by
  rw [ItemTable.element?, ItemTable.element?, getElem?_rows_assign]
  cases table.rows[id]? <;> rfl

/-- The table with assigned properties shows the items with these properties. -/
theorem shows_assign {node : Position (Numbered Item)}
    (member : node ∈ ((itemsOfRules rules).assign properties).positions []) :
    ((itemTable rules).assign properties).Shows node := by
  have source : ∀ node ∈ ((itemsOfRules rules).assign properties).positions [],
      ∃ shown ∈ (elementsOf rules).positions [], node.value.id = shown.value.id ∧
        node.value.value.element = shown.value.value ∧
        node.itemRow = { shown.toItem.itemRow with properties := properties shown.value.id } := by
    intro node member
    have positions := Forest.positions_map (assignTo properties) [] (itemsOfRules rules)
    rw [List.map_nil, ← Items.assign, positions_itemsOfRules, List.map_map] at positions
    rw [positions] at member
    obtain ⟨shown, inDocument, rfl⟩ := List.mem_map.1 member
    exact ⟨shown, inDocument, rfl, rfl, itemRow_assign properties shown.toItem⟩
  refine ItemTable.shows_of_rows ?_ ?_ ?_ member
  · intro node member
    obtain ⟨shown, inDocument, id, -, row⟩ := source node member
    rw [id, getElem?_rows_assign, getElem?_itemRows rules inDocument, row]
    rfl
  · intro node member
    obtain ⟨shown, inDocument, id, element, -⟩ := source node member
    rw [id, element?_assign, element]
    exact (mirrors_itemTable rules).element _ _ (getElem?_elementTable rules inDocument)
  · rw [size_assign, length_rows_assign, length_rows_itemTable]
    exact Nat.le_of_eq (size_itemsBelow [] (elementsOf rules))

theorem map_id_preorder_itemsOfRules :
    (itemsOfRules rules).preorder.map Numbered.id = List.range (elementsOf rules).size := by
  calc (itemsOfRules rules).preorder.map Numbered.id
      = (((itemsOfRules rules).map Numbered.element).preorder).map Numbered.id := by
        rw [Forest.preorder_map, List.map_map]
        rfl
    _ = (elementsOf rules).preorder.map Numbered.id := by
        rw [itemsOfRules, itemsOf, map_element_itemsBelow]
    _ = List.range (elementsOf rules).size := by
        rw [elementsOf, map_id_preorder_number_zero, Forest.size_number]

/-- The numbers of the boxes are consecutive, whatever the properties are. -/
theorem map_id_placeAll (contentWidth : Float32) :
    (placeAll contentWidth ((itemsOfRules rules).assign properties)).1.map (·.item.id) =
      List.range (elementsOf rules).size := by
  calc (placeAll contentWidth ((itemsOfRules rules).assign properties)).1.map (·.item.id)
      = ((placeAll contentWidth ((itemsOfRules rules).assign properties)).1.map Box.item).map
          Numbered.id := by rw [List.map_map]; rfl
    _ = ((itemsOfRules rules).preorder.map (assignTo properties)).map Numbered.id := by
        rw [placeAll, map_item_place, Items.assign, Forest.preorder_map]
    _ = (itemsOfRules rules).preorder.map Numbered.id := by rw [List.map_map]; rfl
    _ = List.range (elementsOf rules).size := map_id_preorder_itemsOfRules rules

/-- Laying out the table puts the boxes of the items with their assigned properties into the
slots. -/
theorem layout?_assign {contentWidth : Float32} (area : isContentWidth contentWidth = true) :
    ((itemTable rules).assign properties).layout? contentWidth =
      some (.ofBoxes (placeAll contentWidth ((itemsOfRules rules).assign properties)).1) := by
  have numbers := map_id_placeAll rules properties contentWidth
  have length := congrArg List.length numbers
  rw [List.length_map, List.length_range] at length
  have rows : ((itemTable rules).assign properties).rows.length = (elementsOf rules).size := by
    rw [length_rows_assign, length_rows_itemTable]
  have size : Forest.size ((itemsOfRules rules).assign properties) = (elementsOf rules).size := by
    rw [size_assign]
    exact size_itemsBelow [] (elementsOf rules)
  have roots : ((itemTable rules).assign properties).roots =
      (Forest.roots ((itemsOfRules rules).assign properties)).map Numbered.id := by
    rw [roots_assign]
    change (elementTable rules).2 = _
    rw [elementTable_eq]
    exact (map_id_roots_itemsBelow [] (elementsOf rules)).symm
  have walked := ItemTable.place?_eq (fun _ => shows_assign rules properties) contentWidth 0 0 0 {}
    (.free (elementsOf rules).size)
  rw [List.map_nil, ← placeAll, size, Nat.add_zero] at walked
  rw [← length] at numbers
  rw [ItemTable.layout?, if_pos area, rows, roots, walked, ← length,
    BoxTable.foldlM_put?_free numbers]
  rfl

/-- The table of items mirrors that of the elements, number by number, and it holds the items of the
document. Whatever properties these are given, laying out the table fills every slot once: the order
of placing is that of the numbers, each slot holds the box of the item with its number, and the
boxes are those of the document with the same properties. -/
theorem layout?_itemTable (rules : Forest Rule) :
    itemTable? (elementTable rules).1 (elementTable rules).2 = some (itemTable rules) ∧
    (itemTable rules).Mirrors (elementTable rules).1 (elementTable rules).2 ∧
    ∀ (properties : Nat → Properties) (contentWidth : Float32),
      isContentWidth contentWidth = true →
      ∃ boxes, ((itemTable rules).assign properties).layout? contentWidth = some boxes ∧
        boxes.order = List.range (itemTable rules).rows.length ∧
        (∀ id < (itemTable rules).rows.length, ∃ box, boxes.get? id = some box ∧
          box.item.id = id ∧ box.properties = properties id) ∧
        (∀ id, (itemTable rules).rows.length ≤ id → boxes.get? id = none) ∧
        layout? contentWidth ((itemsOfRules rules).assign properties) = some boxes.boxes := by
  refine ⟨itemTable?_eq rules, mirrors_itemTable rules, fun properties contentWidth area => ?_⟩
  have laid := layout?_assign rules properties area
  have numbers := map_id_placeAll rules properties contentWidth
  have items := map_item_place contentWidth [] 0 0 {} ((itemsOfRules rules).assign properties)
  rw [← placeAll] at items
  have whole : layout? contentWidth ((itemsOfRules rules).assign properties) =
      some (placeAll contentWidth ((itemsOfRules rules).assign properties)).1 := if_pos area
  -- From here on only the boxes matter, with their numbers and items.
  generalize (placeAll contentWidth ((itemsOfRules rules).assign properties)).1 = placed at *
  have length : placed.length = (itemTable rules).rows.length := by
    have length := congrArg List.length numbers
    rwa [List.length_map, List.length_range, ← length_rows_itemTable] at length
  refine ⟨.ofBoxes placed, laid, ?_, ?_, ?_, ?_⟩
  · rw [← length]
    rfl
  · intro id inside
    rw [← length] at inside
    have listed : id < (placed.map (·.item.id)).length := by rwa [List.length_map]
    have number : placed[id].item.id = id :=
      calc placed[id].item.id
          = (placed.map (·.item.id))[id] := by rw [List.getElem_map]
        _ = id := by simp only [numbers, List.getElem_range]
    refine ⟨placed[id], ?_, number, ?_⟩
    · rw [BoxTable.get?_ofBoxes, List.getElem?_eq_getElem]
    · have member : placed[id].item ∈ Forest.preorder ((itemsOfRules rules).assign properties) := by
        rw [← items]
        exact List.mem_map_of_mem (List.getElem_mem inside)
      rw [Box.properties, properties_of_mem_assign properties member, number]
  · intro id outside
    rw [BoxTable.get?_ofBoxes, List.getElem?_eq_none]
    rwa [length]
  · rw [whole, BoxTable.boxes_ofBoxes]

end Assign

/-- A block with an element below it and one behind it, laid out as if nothing had properties. -/
theorem layout?_itemTable_nestedPair :
    isContentWidth 200 = true ∧
    itemTable? (elementTable nestedPair).1 (elementTable nestedPair).2 =
      some (itemTable nestedPair) ∧
    ∃ boxes, ((itemTable nestedPair).assign fun _ => {}).layout? 200 = some boxes ∧
      boxes.order = [0, 1, 2] ∧
      (∃ box, boxes.get? 2 = some box ∧ box.item.id = 2 ∧ box.properties = {}) ∧
      boxes.get? 3 = none := by
  obtain ⟨filled, -, laidOut⟩ := layout?_itemTable nestedPair
  have area : isContentWidth 200 = true := by decide +kernel
  obtain ⟨boxes, laid, order, inside, outside, -⟩ := laidOut (fun _ => {}) 200 area
  have rows : (itemTable nestedPair).rows.length = 3 := length_rows_itemTable nestedPair
  rw [rows] at order inside outside
  exact ⟨area, filled, boxes, laid, order, inside 2 (by decide), outside 3 (by decide)⟩

end Folio
