import Folio.Proofs.NumberedForest
import Folio.Proofs.Removal

/-!
# The table of elements

The elements of a document can also be kept in a table, each row with the numbers of its parent and
of its children. `enterLevel` fills such a table in one walk over the rules: an element is entered
before what is below it, and its children and what the directive of its level has for it are
written into its row afterwards. Directives take part in the walk and get no row.

`enterLevel_eq` says that the table holds the forest of elements, row by row, so the forest and the
table are two forms of one thing. What the links of the table are good for follows from the forest:
going up by parents ends at a root (`ancestors?_eq`), and the walk with a stack of children comes to
every row once and in order (`traverse?_roots`).
-/

namespace Folio

/-! ## Filling the table -/

/-- A row of the table: an element, and the numbers of its parent and of its children. -/
structure TableRow where
  element : Element
  parent : Option Nat
  children : List Nat

/-- The element with what a directive of its level has for it, if there is one. -/
def Element.behind (element : Element) (directive : Option Style) : Element :=
  match directive with
  | none => element
  | some directive => { element with style := element.style.merged directive }

/-- Enters the elements of a level and of what is below it behind the rows of a table, and gives
back the numbers of the level. The level is below a parent, unless it is the top, and stands behind
a directive of its own, if there is one. -/
def enterLevel (parent : Option Nat) (directive : Option Style) (table : List TableRow) :
    Forest Rule → List TableRow × List Nat
  | .nil => (table, [])
  | .cons rule below rest =>
    match rule.kind with
    | .directive => enterLevel parent (some (directive.getD rule.ownStyle)) table rest
    | .element name =>
      let id := table.length
      let entered := table ++ [⟨rule.toElement name none, parent, []⟩]
      let inner := enterLevel (some id) none entered below
      let patched := inner.1.modify id fun row =>
        { row with element := row.element.behind directive, children := inner.2 }
      let outer := enterLevel parent directive patched rest
      (outer.1, id :: outer.2)

/-- The table of a document and the numbers of its roots. -/
def elementTable (rules : Forest Rule) : List TableRow × List Nat :=
  enterLevel none none [] rules

/-- The row of a node: the node nearest above it is its parent, and the roots of what is below it
are its children. -/
def Position.row (position : Position (Numbered Element)) : TableRow where
  element := position.value.value
  parent := position.above.head?.map Numbered.id
  children := position.below.roots.map Numbered.id

theorem Rule.behind_toElement (rule : Rule) (name : Option String) (directive : Option Style) :
    (rule.toElement name none).behind directive = rule.toElement name directive := by
  cases directive <;> simp only [Element.behind, toElement]

/-- The element rules outside of directives, as a forest. -/
def elementForest : Forest Rule → Forest Rule
  | .nil => .nil
  | .cons rule below rest =>
    match rule.kind with
    | .directive => elementForest rest
    | .element _ => .cons rule (elementForest below) (elementForest rest)

/-- The forest of elements has the shape of the element rules, with their names and texts. -/
theorem map_elementsBehind (directive : Option Style) (rules : Forest Rule) :
    (elementsBehind directive rules).map
        (fun element => (Rule.Kind.element element.name, element.text)) =
      (elementForest rules).map fun rule => (rule.kind, rule.text) := by
  induction rules generalizing directive with
  | nil => rfl
  | cons rule below rest ihBelow ihRest =>
    rw [elementsBehind, elementForest]
    cases kind : rule.kind with
    | directive => exact ihRest _
    | element name =>
      dsimp only
      rw [Forest.map, Forest.map, ihBelow, ihRest, kind]
      rfl

theorem modify_length_append {α : Type} (before : List α) (row : α) (after : List α) (f : α → α) :
    (before ++ row :: after).modify before.length f = before ++ f row :: after :=
  List.modifyTailIdx_add (List.modifyHead f) 0 before (row :: after)

/-- The walk enters the rows of the forest of elements behind those that are there. -/
theorem enterLevel_eq (above : List (Numbered Element)) (directive : Option Style)
    (table : List TableRow) (rules : Forest Rule) :
    enterLevel (above.head?.map Numbered.id) directive table rules =
      (table ++ (((elementsBehind directive rules).number table.length).positions above).map
          Position.row,
        ((elementsBehind directive rules).number table.length).roots.map Numbered.id) := by
  induction rules generalizing above directive table with
  | nil => exact Prod.ext (List.append_nil table).symm rfl
  | cons rule below rest ihBelow ihRest =>
    rw [enterLevel, elementsBehind]
    cases kind : rule.kind with
    | directive => exact ihRest above _ table
    | element name =>
      dsimp only
      rw [Forest.number, Forest.positions, Forest.roots, List.map_cons, List.map_append,
        List.map_cons]
      have inner := ihBelow (⟨table.length, rule.toElement name directive⟩ :: above) none
        (table ++ [⟨rule.toElement name none, above.head?.map Numbered.id, []⟩])
      rw [List.head?_cons, Option.map_some, List.length_append, List.length_singleton,
        List.append_assoc, List.singleton_append] at inner
      rw [inner]
      dsimp only
      rw [modify_length_append, ihRest, Rule.behind_toElement, List.length_append,
        List.length_cons, List.length_map, Forest.length_positions, Forest.size_number]
      have behind : table.length + ((elementsBehind none below).size + 1) =
          table.length + 1 + (elementsBehind none below).size := by omega
      rw [behind, List.append_assoc, List.cons_append]
      rfl

/-! ## Links -/

/-- Goes up from a number to the root, by the parents in the table, in no more than the given number
of steps; none if the way is longer or leaves the table. -/
def ancestors? (table : List TableRow) : Nat → Option Nat → Option (List Nat)
  | _, none => some []
  | 0, some _ => none
  | steps + 1, some id => do
    let row ← table[id]?
    let above ← ancestors? table steps row.parent
    return id :: above

/-- Takes the numbers of a stack, its top first, and puts the children of each in its place, in no
more than the given number of steps; none if that is not enough or a number is not in the table. -/
def traverse? (table : List TableRow) : Nat → List Nat → Option (List Nat)
  | _, [] => some []
  | 0, _ :: _ => none
  | steps + 1, id :: stack => do
    let row ← table[id]?
    let others ← traverse? table steps (row.children ++ stack)
    return id :: others

section Rows

variable {table : List TableRow} {forest : Elements} {above : List (Numbered Element)}

/-- Going up from a node comes to what is above it. -/
theorem ancestors?_eq (rows : ∀ node ∈ forest.positions [], table[node.value.id]? = some node.row)
    {node : Position (Numbered Element)} (member : node ∈ forest.positions []) (steps : Nat) :
    ancestors? table (node.above.length + steps) (node.above.head?.map Numbered.id) =
      some (node.above.map Numbered.id) := by
  generalize height : node.above.length = length
  induction length generalizing node with
  | zero =>
    rw [List.eq_nil_of_length_eq_zero height]
    exact ancestors?.eq_1 table _
  | succ length ih =>
    obtain ⟨top, -⟩ | ⟨parent, inForest, up, -⟩ := Forest.exists_parent_of_mem_positions member
    · rw [top] at height
      cases height
    · rw [up, List.length_cons, Nat.add_right_cancel_iff] at height
      have further := ih inForest height
      rw [up, List.head?_cons, Option.map_some, Nat.add_right_comm, ancestors?,
        rows parent inForest]
      change (do let above ← ancestors? table (length + steps) (parent.above.head?.map Numbered.id)
                 return parent.value.id :: above) = _
      rw [further]
      rfl

/-- The walk with a stack goes through a forest in pre-order before it goes on with what is below
the forest on the stack. -/
theorem traverse?_roots
    (rows : ∀ node ∈ forest.positions above, table[node.value.id]? = some node.row)
    (steps : Nat) (stack : List Nat) :
    traverse? table (forest.size + steps) (forest.roots.map Numbered.id ++ stack) =
      (traverse? table steps stack).map (forest.preorder.map Numbered.id ++ ·) := by
  induction forest generalizing above steps stack with
  | nil =>
    rw [Forest.size, Nat.zero_add]
    exact Option.map_id'.symm
  | cons node below rest ihBelow ihRest =>
    have row := rows ⟨above, node, below⟩ List.mem_cons_self
    have inBelow : ∀ node' ∈ below.positions (node :: above),
        table[node'.value.id]? = some node'.row := fun node' member =>
      rows node' (List.mem_cons_of_mem _ (List.mem_append_left _ member))
    have inRest : ∀ node' ∈ rest.positions above, table[node'.value.id]? = some node'.row :=
      fun node' member => rows node' (List.mem_cons_of_mem _ (List.mem_append_right _ member))
    have count : 1 + below.size + rest.size + steps =
        below.size + (rest.size + steps) + 1 := by omega
    dsimp only at row
    rw [Forest.size, Forest.roots, Forest.preorder, count, List.map_cons, List.cons_append,
      traverse?, row]
    change (do let others ← traverse? table (below.size + (rest.size + steps))
                  (below.roots.map Numbered.id ++ (rest.roots.map Numbered.id ++ stack))
               return node.id :: others) = _
    rw [ihBelow inBelow, ihRest inRest]
    cases traverse? table steps stack with
    | none => rfl
    | some others =>
      simp [List.append_assoc]

end Rows

/-! ## All links together -/

/-- What holds of the links of a table and of the numbers of its roots. -/
structure WellLinked (table : List TableRow) (roots : List Nat) : Prop where
  /-- A parent comes before its children. -/
  parent_lt : ∀ (id parent : Nat) (row : TableRow), table[id]? = some row →
    row.parent = some parent → parent < id
  /-- Every number is once among the roots or among the children of some row. -/
  once : (roots ++ table.flatMap TableRow.children).Perm (List.range table.length)
  /-- The roots are the rows without a parent. -/
  mem_roots_iff : ∀ id : Nat, id ∈ roots ↔ ∃ row, table[id]? = some row ∧ row.parent = none
  /-- The children of a row are the rows that have it for their parent. -/
  mem_children_iff : ∀ (parent : Nat) (row : TableRow), table[parent]? = some row → ∀ id : Nat,
    id ∈ row.children ↔ ∃ child, table[id]? = some child ∧ child.parent = some parent
  roots_rise : roots.Pairwise (· < ·)
  children_rise : ∀ row ∈ table, row.children.Pairwise (· < ·)
  /-- Going up from a row, the numbers fall until a root is reached. -/
  ancestors : ∀ (id : Nat) (row : TableRow), table[id]? = some row →
    ∃ above, ancestors? table table.length row.parent = some above ∧
      (id :: above).Pairwise (· > ·) ∧ ∃ root ∈ roots, (id :: above).getLast? = some root
  /-- The walk with a stack ends, and it comes to every row once and in order. -/
  traversal : traverse? table table.length roots = some (List.range table.length)

theorem length_le_of_pairwise_gt {first : Nat} {others : List Nat}
    (falls : (first :: others).Pairwise (· > ·)) : others.length ≤ first := by
  induction others generalizing first with
  | nil => exact Nat.zero_le _
  | cons next others ih =>
    rw [List.pairwise_cons] at falls
    have lower : first > next := falls.1 next List.mem_cons_self
    have shorter := ih falls.2
    rw [List.length_cons]
    omega

section Numbered

variable {forest : Forest Element}

/-- The row of a node stands at its number. -/
theorem getElem?_rows {node : Position (Numbered Element)}
    (member : node ∈ (forest.number 0).positions []) :
    (((forest.number 0).positions []).map Position.row)[node.value.id]? = some node.row := by
  rw [List.getElem?_map, Forest.getElem?_id_of_mem_positions member, Option.map_some]

/-- A row is that of the node with its number. -/
theorem exists_node_of_getElem?_rows {id : Nat} {row : TableRow}
    (found : (((forest.number 0).positions []).map Position.row)[id]? = some row) :
    ∃ node ∈ (forest.number 0).positions [], node.value.id = id ∧ node.row = row := by
  rw [List.getElem?_map, Option.map_eq_some_iff] at found
  obtain ⟨node, nodeAt, same⟩ := found
  have number := Forest.id_of_getElem?_positions nodeAt
  rw [Nat.zero_add] at number
  exact ⟨node, List.mem_of_getElem? nodeAt, number, same⟩

theorem length_rows (forest : Forest Element) :
    (((forest.number 0).positions []).map Position.row).length = forest.size := by
  rw [List.length_map, Forest.length_positions, Forest.size_number]

theorem map_id_preorder_number_zero (forest : Forest Element) :
    (forest.number 0).preorder.map Numbered.id = List.range forest.size := by
  rw [Forest.map_id_preorder_number, List.range_eq_range']

/-- From a node up, the numbers fall. -/
theorem pairwise_numbers_above {node : Position (Numbered Element)}
    (member : node ∈ (forest.number 0).positions []) :
    (node.value.id :: node.above.map Numbered.id).Pairwise (· > ·) := by
  rw [← List.map_cons]
  exact Forest.pairwise_above_of_mem_positions .nil
    (fun _ none => absurd none List.not_mem_nil) member

theorem mem_rootNumbers_iff (id : Nat) :
    id ∈ (forest.number 0).roots.map Numbered.id ↔
      ∃ row, (((forest.number 0).positions []).map Position.row)[id]? = some row ∧
        row.parent = none := by
  constructor
  · intro member
    obtain ⟨value, isRoot, rfl⟩ := List.mem_map.1 member
    obtain ⟨node, found, rfl, top⟩ := Forest.exists_position_of_mem_roots [] isRoot
    refine ⟨_, getElem?_rows found, ?_⟩
    rw [Position.row, top]
    rfl
  · rintro ⟨row, found, noParent⟩
    obtain ⟨node, member, rfl, rfl⟩ := exists_node_of_getElem?_rows found
    obtain ⟨-, isRoot⟩ | ⟨parent, -, up, -⟩ := Forest.exists_parent_of_mem_positions member
    · exact List.mem_map_of_mem isRoot
    · rw [Position.row, up] at noParent
      cases noParent

theorem mem_children_rows_iff {parent : Nat} {row : TableRow}
    (found : (((forest.number 0).positions []).map Position.row)[parent]? = some row) (id : Nat) :
    id ∈ row.children ↔
      ∃ child, (((forest.number 0).positions []).map Position.row)[id]? = some child ∧
        child.parent = some parent := by
  obtain ⟨node, member, rfl, rfl⟩ := exists_node_of_getElem?_rows found
  constructor
  · intro child
    obtain ⟨value, isBelow, rfl⟩ := List.mem_map.1 child
    obtain ⟨position, inForest, rfl, up⟩ := Forest.exists_position_of_mem_below member isBelow
    refine ⟨_, getElem?_rows inForest, ?_⟩
    rw [Position.row, up]
    rfl
  · rintro ⟨child, foundChild, up⟩
    obtain ⟨position, inForest, rfl, rfl⟩ := exists_node_of_getElem?_rows foundChild
    obtain ⟨top, -⟩ | ⟨other, inForest', above, isBelow⟩ :=
      Forest.exists_parent_of_mem_positions inForest
    · rw [Position.row, top] at up
      cases up
    · -- The node above has the number of the row, so it has the row.
      rw [Position.row, above] at up
      have same : other.value.id = node.value.id := Option.some.inj up
      have row := getElem?_rows inForest'
      rw [same, getElem?_rows member] at row
      have children := congrArg TableRow.children (Option.some.inj row)
      rw [children]
      exact List.mem_map_of_mem isBelow

/-- The way up from a row ends at a root before the rows run out. -/
theorem ancestors?_rows {id : Nat} {row : TableRow}
    (found : (((forest.number 0).positions []).map Position.row)[id]? = some row) :
    ∃ above, ancestors? (((forest.number 0).positions []).map Position.row)
        (((forest.number 0).positions []).map Position.row).length row.parent = some above ∧
      (id :: above).Pairwise (· > ·) ∧
      ∃ root ∈ (forest.number 0).roots.map Numbered.id, (id :: above).getLast? = some root := by
  obtain ⟨node, member, rfl, rfl⟩ := exists_node_of_getElem?_rows found
  have falls := pairwise_numbers_above member
  refine ⟨node.above.map Numbered.id, ?_, falls, ?_⟩
  · have few := length_le_of_pairwise_gt falls
    have inside := (List.getElem?_eq_some_iff.1 found).1
    rw [List.length_map] at few
    obtain ⟨steps, enough⟩ := Nat.le.dest (Nat.le_trans few (Nat.le_of_lt inside))
    rw [← enough]
    exact ancestors?_eq (fun _ => getElem?_rows) member steps
  · obtain ⟨root, isRoot, last⟩ := Forest.exists_root_of_mem_positions member
    refine ⟨root.id, List.mem_map_of_mem isRoot, ?_⟩
    rw [← List.map_cons, List.getLast?_map, last, Option.map_some]

end Numbered

/-- The rows of a forest that is numbered from nought are well linked. -/
theorem wellLinked_rows (forest : Forest Element) :
    WellLinked (((forest.number 0).positions []).map Position.row)
      ((forest.number 0).roots.map Numbered.id) := by
  constructor
  case parent_lt =>
    intro id parent row found up
    obtain ⟨node, member, rfl, rfl⟩ := exists_node_of_getElem?_rows found
    have lower := pairwise_numbers_above member
    rw [List.pairwise_cons] at lower
    refine lower.1 parent (List.mem_of_head? ?_)
    rwa [List.head?_map]
  case once =>
    rw [length_rows, ← map_id_preorder_number_zero]
    have once := (Forest.perm_roots_append_below [] (forest.number 0)).map Numbered.id
    rw [List.map_append, List.map_flatMap] at once
    rwa [List.flatMap_map]
  case mem_roots_iff => exact mem_rootNumbers_iff
  case mem_children_iff => exact fun _ _ found => mem_children_rows_iff found
  case roots_rise => exact Forest.pairwise_roots_number 0 forest
  case children_rise =>
    intro row member
    obtain ⟨node, inForest, rfl⟩ := List.mem_map.1 member
    obtain ⟨inner, below⟩ := Forest.below_of_mem_positions_number inForest
    rw [Position.row, below]
    exact Forest.pairwise_roots_number _ inner
  case ancestors => exact fun _ _ found => ancestors?_rows found
  case traversal =>
    have rows : ∀ node ∈ (forest.number 0).positions [],
        (((forest.number 0).positions []).map Position.row)[node.value.id]? = some node.row :=
      fun _ => getElem?_rows
    have walked := traverse?_roots rows 0 []
    rw [Forest.size_number, Nat.add_zero, List.append_nil, map_id_preorder_number_zero] at walked
    rw [length_rows, walked]
    exact congrArg some (List.append_nil _)

/-- The table that a walk over a document fills is the forest of its elements, with the shape of the
element rules outside of directives; the rows are numbered in pre-order, and all links are as they
should be. -/
theorem elementTable_wellLinked (rules : Forest Rule) :
    (elementTable rules).1 = ((elementsOf rules).positions []).map Position.row ∧
    (elementTable rules).2 = (elementsOf rules).roots.map Numbered.id ∧
    (elementsOf rules).map (fun node => (Rule.Kind.element node.value.name, node.value.text)) =
      (elementForest rules).map (fun rule => (rule.kind, rule.text)) ∧
    (elementsOf rules).preorder.map Numbered.id = List.range (elementTable rules).1.length ∧
    WellLinked (elementTable rules).1 (elementTable rules).2 := by
  have table : elementTable rules = (((elementsOf rules).positions []).map Position.row,
      (elementsOf rules).roots.map Numbered.id) := enterLevel_eq [] none [] rules
  have shape := map_elementsBehind none rules
  rw [← map_value_elementsOf, Forest.map_map] at shape
  rw [table]
  refine ⟨rfl, rfl, shape, ?_, wellLinked_rows _⟩
  rw [List.length_map, Forest.length_positions, elementsOf, Forest.size_number,
    Forest.map_id_preorder_number, List.range_eq_range']

end Folio
