import Folio.Proofs.ElementTable
import Folio.Proofs.ItemPositions

/-!
# The table of items

The items of a document can be kept in a table too, made from the table of its elements. A second
walk goes down the elements by their children; it gives out numbers of its own, looks up what an
element lies under by the parents in the first table, and writes the children of an item into its
row when all of them were entered (`enterItems?`).

Nothing in this walk says that the two tables have anything to do with one another. But both follow
the forest of elements, so the walk ends, and it enters row by row the forest of items
(`itemTable?_eq`): the numbers, parents, children and roots of the tables are the same, and every
item is made of the element with its own number (`mirrors_itemTable`).
-/

namespace Folio

/-! ## Going up -/

/-- Goes up from a number to the root, in no more than the given number of steps, and collects what
a look-up says of each number; the look-up also gives the parent. None if the way is longer or
comes to a number that the look-up does not know. -/
def goUp? {β : Type} (look : Nat → Option (β × Option Nat)) : Nat → Option Nat → Option (List β)
  | _, none => some []
  | 0, some _ => none
  | steps + 1, some id => do
    let (seen, parent) ← look id
    let above ← goUp? look steps parent
    return seen :: above

theorem ancestors?_eq_goUp? (table : List TableRow) (steps : Nat) (start : Option Nat) :
    ancestors? table steps start =
      goUp? (fun id => table[id]?.map fun row => (id, row.parent)) steps start := by
  induction steps generalizing start with
  | zero => cases start <;> rfl
  | succ steps ih =>
    cases start with
    | none => rfl
    | some id =>
      rw [ancestors?, goUp?]
      cases table[id]? with
      | none => rfl
      | some row =>
        change (do let above ← ancestors? table steps row.parent; return id :: above) =
          (do let above ← goUp? _ steps row.parent; return id :: above)
        rw [ih]

/-- A node lies under no more nodes than the forest has. -/
theorem Forest.length_above_lt {α : Type} {above : List α} {forest : Forest α} {node : Position α}
    (member : node ∈ forest.positions above) : node.above.length < above.length + forest.size := by
  induction forest generalizing above with
  | nil => cases member
  | cons value below rest ihBelow ihRest =>
    rw [positions, List.mem_cons, List.mem_append] at member
    rw [size]
    rcases member with rfl | member | member
    · dsimp only
      omega
    · have deeper := ihBelow member
      rw [List.length_cons] at deeper
      omega
    · have beside := ihRest member
      omega

/-- Going up from a node collects what is seen of the nodes above it. -/
theorem goUp?_eq {α β : Type} {forest : Forest (Numbered α)}
    {look : Nat → Option (β × Option Nat)} {view : Numbered α → β}
    (looks : ∀ node ∈ forest.positions [],
      look node.value.id = some (view node.value, node.above.head?.map Numbered.id))
    {node : Position (Numbered α)} (member : node ∈ forest.positions []) {steps : Nat}
    (enough : forest.size ≤ steps) :
    goUp? look steps (node.above.head?.map Numbered.id) = some (node.above.map view) := by
  have few : node.above.length ≤ steps := by
    have few := Forest.length_above_lt member
    rw [List.length_nil] at few
    omega
  clear enough
  induction steps generalizing node with
  | zero =>
    rw [List.eq_nil_of_length_eq_zero (Nat.le_zero.1 few)]
    rfl
  | succ steps ih =>
    obtain ⟨top, -⟩ | ⟨parent, inForest, up, -⟩ := Forest.exists_parent_of_mem_positions member
    · rw [top]
      rfl
    · rw [up, List.length_cons, Nat.add_le_add_iff_right] at few
      have further := ih inForest few
      rw [up, List.head?_cons, Option.map_some, goUp?, looks parent inForest]
      change (do let above ← goUp? look steps (parent.above.head?.map Numbered.id)
                 return view parent.value :: above) = _
      rw [further]
      rfl

/-! ## Filling the table -/

/-- A row of the table of items: the number of the element that the item is made of, the properties
of the item, and the numbers of its parent and of its children. -/
structure ItemRow where
  source : Nat
  properties : Properties
  parent : Option Nat
  children : List Nat

/-- The styles that the declarations of the element with a number can look at, by a table of
elements. -/
def styleContext? (elements : List TableRow) (id : Nat) : Option StyleContext := do
  let row ← elements[id]?
  let above ← goUp?
    (fun id => elements[id]?.map fun row => (row.element.style, row.parent)) elements.length row.parent
  return ⟨row.element.style, above⟩

/-- Enters the items of the elements with the given numbers, and of all that is below these, behind
the rows of a table, and gives back the numbers that the items get. The items are below a parent,
unless they are the roots. None if the elements do not come to an end in the given number of
steps. -/
def enterItems? (elements : List TableRow) :
    Nat → Option Nat → List ItemRow → List Nat → Option (List ItemRow × List Nat)
  | _, _, table, [] => some (table, [])
  | 0, _, _, _ :: _ => none
  | steps + 1, parent, table, source :: sources => do
    let row ← elements[source]?
    let context ← styleContext? elements source
    let id := table.length
    let entered := table ++ [⟨source, propertiesOf context, parent, []⟩]
    let inner ← enterItems? elements steps (some id) entered row.children
    let patched := inner.1.modify id fun row => { row with children := inner.2 }
    let outer ← enterItems? elements steps parent patched sources
    return (outer.1, id :: outer.2)

/-- The items of a document in a table, with the table of its elements. -/
structure ItemTable where
  elements : List TableRow
  rows : List ItemRow
  roots : List Nat

/-- The table of the items of a table of elements with the numbers of its roots. -/
def itemTable? (elements : List TableRow) (roots : List Nat) : Option ItemTable := do
  let (rows, ids) ← enterItems? elements elements.length none [] roots
  return ⟨elements, rows, ids⟩

namespace ItemTable

variable (table : ItemTable) (id : Nat)

/-- The element that the item with a number is made of; its name and its text are those of the
item. -/
def element? : Option Element := do
  let row ← table.rows[id]?
  let source ← table.elements[row.source]?
  return source.element

/-- The item with a number. -/
def item? : Option (Numbered Item) := do
  let row ← table.rows[id]?
  let element ← table.element? id
  return ⟨id, element, row.properties⟩

/-- The numbers above the item with a number, nearest first. -/
def numbersAbove? : Option (List Nat) := do
  let row ← table.rows[id]?
  goUp? (fun id => table.rows[id]?.map fun row => (id, row.parent)) table.rows.length row.parent

/-- The properties above the item with a number, nearest first. -/
def propertiesAbove? : Option (List Properties) := do
  let row ← table.rows[id]?
  goUp? (fun id => table.rows[id]?.map fun row => (row.properties, row.parent)) table.rows.length
    row.parent

end ItemTable

/-- The row of an item: the node nearest above it is its parent, and the roots of what is below it
are its children. -/
def Position.itemRow (node : Position (Numbered Item)) : ItemRow where
  source := node.value.id
  properties := node.value.value.properties
  parent := node.above.head?.map Numbered.id
  children := node.below.roots.map Numbered.id

/-! ## The walk follows the forest -/

theorem map_id_roots_itemsBelow (above : List Style) (elements : Elements) :
    (itemsBelow above elements).roots.map Numbered.id = elements.roots.map Numbered.id := by
  induction elements with
  | nil => rfl
  | cons node below rest _ ihRest =>
    rw [itemsBelow, Forest.roots, Forest.roots, List.map_cons, List.map_cons, ihRest]

theorem map_id_itemPath (path : List (Numbered Element)) :
    (itemPath path).map Numbered.id = path.map Numbered.id := by
  induction path with
  | nil => rfl
  | cons node above ih => rw [itemPath, List.map_cons, List.map_cons, ih]

/-- The row of the item of an element has the links of the row of the element. -/
theorem itemRow_toItem (node : Position (Numbered Element)) :
    node.toItem.itemRow =
      ⟨node.value.id, propertiesOf node.styleContext, node.row.parent, node.row.children⟩ := by
  have parent : (itemPath node.above).head?.map Numbered.id =
      node.above.head?.map Numbered.id := by
    rw [← List.head?_map, ← List.head?_map, map_id_itemPath]
  rw [Position.itemRow, Position.row]
  dsimp only [Position.toItem]
  rw [parent, map_id_roots_itemsBelow]
  rfl

/-- A table of elements has a node at its number, and the styles above it on the way up. -/
structure ShowsElement (elements : List TableRow) (node : Position (Numbered Element)) : Prop where
  row : elements[node.value.id]? = some node.row
  context : styleContext? elements node.value.id = some node.styleContext

/-- The walk enters the rows of the items behind those that are there, and it gives the items the
numbers of their elements, if these go on where the rows end. -/
theorem enterItems?_eq {elements : List TableRow} {forest : Forest Element}
    {above : List (Numbered Element)} {table : List ItemRow}
    (shows : ∀ node ∈ (forest.number table.length).positions above, ShowsElement elements node)
    (steps : Nat) :
    enterItems? elements (forest.size + steps) (above.head?.map Numbered.id) table
        ((forest.number table.length).roots.map Numbered.id) =
      some (table ++ ((forest.number table.length).positions above).map fun node =>
          node.toItem.itemRow,
        (forest.number table.length).roots.map Numbered.id) := by
  induction forest generalizing above table steps with
  | nil =>
    rw [Forest.number, Forest.positions, Forest.roots, List.map_nil, List.map_nil, enterItems?,
      List.append_nil]
  | cons value below rest ihBelow ihRest =>
    rw [Forest.number, Forest.positions] at shows
    obtain ⟨row, context⟩ := shows _ List.mem_cons_self
    have count : 1 + below.size + rest.size + steps =
        below.size + (rest.size + steps) + 1 := by omega
    have count' : below.size + (rest.size + steps) = rest.size + (below.size + steps) := by omega
    dsimp only at row context
    rw [Forest.number, Forest.positions, Forest.roots, Forest.size, List.map_cons, List.map_cons,
      count, enterItems?, row, context, List.map_append, itemRow_toItem]
    dsimp only [Option.bind_eq_bind, Option.bind_some, Position.row]
    generalize propertiesOf (Position.styleContext _) = properties
    -- The row is entered without children first.
    generalize entered : table ++ [(⟨table.length, properties,
      above.head?.map Numbered.id, []⟩ : ItemRow)] = withRow
    have length : withRow.length = table.length + 1 := by
      rw [← entered, List.length_append, List.length_singleton]
    have inner := @ihBelow (⟨table.length, value⟩ :: above) withRow (by
      intro node member
      rw [length] at member
      exact shows node (List.mem_cons_of_mem _ (List.mem_append_left _ member)))
      (rest.size + steps)
    rw [length, List.head?_cons, Option.map_some] at inner
    rw [inner]
    dsimp only [Option.bind_some]
    rw [← entered, List.append_assoc, List.singleton_append, modify_length_append]
    dsimp only
    generalize patched : table ++ _ = withTree
    have behind : withTree.length = table.length + 1 + below.size := by
      rw [← patched, List.length_append, List.length_cons, List.length_map,
        Forest.length_positions, Forest.size_number]
      omega
    have outer := @ihRest above withTree (by
      intro node member
      rw [behind] at member
      exact shows node (List.mem_cons_of_mem _ (List.mem_append_right _ member)))
      (below.size + steps)
    rw [behind] at outer
    rw [count', outer, ← patched]
    simp only [Option.bind_some, List.append_assoc, List.cons_append]
    rfl

/-! ## The tables of a document -/

/-- The rows of two tables agree number by number: an item is made of the element with its own
number and is linked as that element is, and going up from it comes to the same numbers. -/
structure ItemTable.Mirrors (table : ItemTable) (elements : List TableRow) (roots : List Nat) :
    Prop where
  roots_eq : table.roots = roots
  length_eq : table.rows.length = elements.length
  row : ∀ (id : Nat) (shown : TableRow), elements[id]? = some shown →
    ∃ row, table.rows[id]? = some row ∧ row.source = id ∧ row.parent = shown.parent ∧
      row.children = shown.children
  element : ∀ (id : Nat) (shown : TableRow), elements[id]? = some shown →
    table.element? id = some shown.element
  above : ∀ (id : Nat) (shown : TableRow), elements[id]? = some shown →
    ∃ above, table.numbersAbove? id = some above ∧
      ancestors? elements elements.length shown.parent = some above

/-- The items of rules in a table, row by row. -/
def itemTable (rules : Forest Rule) : ItemTable where
  elements := (elementTable rules).1
  rows := ((itemsOfRules rules).positions []).map Position.itemRow
  roots := (elementTable rules).2

section Tables

variable (rules : Forest Rule)

theorem elementTable_eq :
    elementTable rules = (((elementsOf rules).positions []).map Position.row,
      (elementsOf rules).roots.map Numbered.id) :=
  enterLevel_eq [] none [] rules

theorem getElem?_elementTable {node : Position (Numbered Element)}
    (member : node ∈ (elementsOf rules).positions []) :
    (elementTable rules).1[node.value.id]? = some node.row := by
  rw [elementTable_eq]
  exact getElem?_rows member

theorem exists_node_of_getElem?_elementTable {id : Nat} {row : TableRow}
    (found : (elementTable rules).1[id]? = some row) :
    ∃ node ∈ (elementsOf rules).positions [], node.value.id = id ∧ node.row = row := by
  rw [elementTable_eq] at found
  exact exists_node_of_getElem?_rows found

theorem length_elementTable : (elementTable rules).1.length = (elementsOf rules).size := by
  rw [elementTable_eq, elementsOf, length_rows, Forest.size_number]

theorem showsElement_elementTable {node : Position (Numbered Element)}
    (member : node ∈ (elementsOf rules).positions []) :
    ShowsElement (elementTable rules).1 node := by
  refine ⟨getElem?_elementTable rules member, ?_⟩
  have above : goUp?
      (fun id => (elementTable rules).1[id]?.map fun row => (row.element.style, row.parent))
      (elementTable rules).1.length (node.above.head?.map Numbered.id) =
      some (node.above.map (·.value.style)) := by
    refine goUp?_eq (fun node member => ?_) member ?_
    · rw [getElem?_elementTable rules member]
      rfl
    · rw [length_elementTable]
  rw [styleContext?, getElem?_elementTable rules member]
  change (do let above ← goUp? _ _ (node.above.head?.map Numbered.id)
             return (⟨node.value.value.style, above⟩ : StyleContext)) = _
  rw [above]
  rfl

theorem positions_itemsOfRules :
    (itemsOfRules rules).positions [] =
      ((elementsOf rules).positions []).map Position.toItem :=
  positions_itemsBelow [] (elementsOf rules)

theorem length_rows_itemTable : (itemTable rules).rows.length = (elementsOf rules).size := by
  rw [itemTable, positions_itemsOfRules, List.length_map, List.length_map, Forest.length_positions]

theorem getElem?_itemRows {node : Position (Numbered Element)}
    (member : node ∈ (elementsOf rules).positions []) :
    (itemTable rules).rows[node.value.id]? = some node.toItem.itemRow := by
  have found : ((elementsOf rules).positions [])[node.value.id]? = some node :=
    Forest.getElem?_id_of_mem_positions member
  rw [itemTable, positions_itemsOfRules, List.map_map, List.getElem?_map, found]
  rfl

/-- The walk down the elements ends, and what it enters is the forest of items. -/
theorem itemTable?_eq :
    itemTable? (elementTable rules).1 (elementTable rules).2 =
      some (itemTable rules) := by
  have entered := @enterItems?_eq (elementTable rules).1 (elementsBehind none rules) [] []
    (fun _ => showsElement_elementTable rules) 0
  have roots : (elementTable rules).2 = (elementsOf rules).roots.map Numbered.id := by
    rw [elementTable_eq]
  have steps : (elementTable rules).1.length = (elementsBehind none rules).size := by
    rw [length_elementTable, elementsOf, Forest.size_number]
  rw [itemTable?, itemTable, steps, roots, positions_itemsOfRules, List.map_map]
  rw [Nat.add_zero] at entered
  change (do let (rows, ids) ← enterItems? _ _ (([] : List (Numbered Element)).head?.map Numbered.id)
                [] (((elementsBehind none rules).number ([] : List ItemRow).length).roots.map
                  Numbered.id)
             return (⟨_, rows, ids⟩ : ItemTable)) = _
  rw [entered]
  rfl

/-- The table of items has the lengths, links, names and texts of the table of elements. -/
theorem mirrors_itemTable :
    (itemTable rules).Mirrors (elementTable rules).1 (elementTable rules).2 := by
  constructor
  case roots_eq => rfl
  case length_eq =>
    rw [length_rows_itemTable, length_elementTable]
  case row =>
    intro id shown found
    obtain ⟨node, member, rfl, rfl⟩ := exists_node_of_getElem?_elementTable rules found
    refine ⟨_, getElem?_itemRows rules member, ?_⟩
    rw [itemRow_toItem]
    exact ⟨rfl, rfl, rfl⟩
  case element =>
    intro id shown found
    obtain ⟨node, member, rfl, rfl⟩ := exists_node_of_getElem?_elementTable rules found
    rw [ItemTable.element?, getElem?_itemRows rules member]
    change (do let source ← (elementTable rules).1[node.value.id]?; return source.element) = _
    rw [found]
    rfl
  case above =>
    intro id shown found
    obtain ⟨node, member, rfl, rfl⟩ := exists_node_of_getElem?_elementTable rules found
    refine ⟨node.above.map Numbered.id, ?_, ?_⟩
    · rw [ItemTable.numbersAbove?, getElem?_itemRows rules member, itemRow_toItem]
      refine goUp?_eq (fun node member => ?_) member ?_
      · rw [getElem?_itemRows rules member, itemRow_toItem]
        rfl
      · rw [length_rows_itemTable]
    · rw [ancestors?_eq_goUp?]
      refine goUp?_eq (fun node member => ?_) member ?_
      · rw [getElem?_elementTable rules member]
        rfl
      · rw [length_elementTable]

end Tables

end Folio
