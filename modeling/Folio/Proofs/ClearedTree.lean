import Folio.Proofs.BoxTable
import Folio.Proofs.DrawnEffect
import Folio.Proofs.Removal

/-!
# Clearing a tree

A program may take the properties of any item away. An item without properties still has a box, a
number and a place in the tree, but its box is not drawn, and neither the line nor the reach of its
row goes on behind it. `Fades` is what this means for a whole forest: it loses trees in which no
item has a property. Such a loss changes no drawn box and leaves the line as it was
(`place_of_fades`).

To take the properties of a whole tree away and to remove the tree come to the same then, and so do
the commands of a document whose tree is cleared and of one without the rule of the tree
(`map_boxCommands_layout?_clear`).
-/

namespace Folio

/-! ## Taking properties away -/

namespace Forest

variable {α β : Type}

theorem map_congr_of_mem {f g : α → β} {forest : Forest α}
    (agree : ∀ value ∈ forest.preorder, f value = g value) : forest.map f = forest.map g := by
  induction forest with
  | nil => rfl
  | cons value below rest ihBelow ihRest =>
    rw [preorder, List.forall_mem_cons, List.forall_mem_append] at agree
    obtain ⟨own, inside, behind⟩ := agree
    rw [map, map, own, ihBelow inside, ihRest behind]

@[simp] theorem map_id (forest : Forest α) : forest.map id = forest := by
  induction forest with
  | nil => rfl
  | cons value below rest ihBelow ihRest => rw [map, ihBelow, ihRest, id]

end Forest

/-- The items without the properties of the nodes with the given numbers. -/
def Items.clear (items : Items) (ids : List Nat) : Items :=
  ids.foldl (fun items id => items.change id fun _ => .empty) items

/-- The numbers of a node and of all that is below it. -/
def Position.treeIds {α : Type} (position : Position (Numbered α)) : List Nat :=
  (position.value :: position.below.preorder).map Numbered.id

/-- A node without its properties. -/
def Numbered.cleared (node : Numbered Item) : Numbered Item :=
  ⟨node.id, ⟨node.value.element, .empty⟩⟩

/-- A node, without its properties if its number is among the given ones. -/
def clearedIn (ids : List Nat) (node : Numbered Item) : Numbered Item :=
  if node.id ∈ ids then node.cleared else node

theorem clearedIn_of_mem {ids : List Nat} {node : Numbered Item} (member : node.id ∈ ids) :
    clearedIn ids node = node.cleared :=
  if_pos member

theorem clearedIn_of_notMem {ids : List Nat} {node : Numbered Item} (foreign : node.id ∉ ids) :
    clearedIn ids node = node :=
  if_neg foreign

/-- A node stays cleared. -/
theorem clearedIn_cleared (ids : List Nat) (node : Numbered Item) :
    clearedIn ids node.cleared = node.cleared :=
  ite_self _

theorem clearedIn_cons (id : Nat) (ids : List Nat) (node : Numbered Item) :
    clearedIn (id :: ids) node = clearedIn ids (if node.id = id then node.cleared else node) := by
  by_cases first : node.id = id
  · rw [if_pos first, clearedIn_cleared, clearedIn_of_mem (List.mem_cons.2 (.inl first))]
  · rw [if_neg first]
    by_cases later : node.id ∈ ids
    · rw [clearedIn_of_mem later, clearedIn_of_mem (List.mem_cons_of_mem _ later)]
    · have foreign : node.id ∉ id :: ids := List.not_mem_cons_of_ne_of_not_mem first later
      rw [clearedIn_of_notMem later, clearedIn_of_notMem foreign]

/-- One number after the other is all of them at once. -/
theorem Items.clear_eq_map (items : Items) (ids : List Nat) :
    items.clear ids = items.map (clearedIn ids) := by
  induction ids generalizing items with
  | nil =>
    have keeps : clearedIn [] = id := funext fun node => clearedIn_of_notMem List.not_mem_nil
    rw [keeps, Forest.map_id]
    rfl
  | cons first ids ih =>
    rw [Items.clear, List.foldl_cons, ← Items.clear, ih, Items.change, Forest.map_map]
    congr 1
    funext node
    exact (clearedIn_cons first ids node).symm

/-! ## Trees without properties -/

/-- The second forest is the first one without trees in which no item has a property. -/
inductive Fades : Items → Items → Prop
  | nil : Fades .nil .nil
  | keep {node : Numbered Item} {below below' rest rest' : Items} (inner : Fades below below')
      (outer : Fades rest rest') : Fades (.cons node below rest) (.cons node below' rest')
  | lose {node : Numbered Item} {below rest rest' : Items}
      (bare : node.value.properties = .empty) (inner : Fades below .nil)
      (outer : Fades rest rest') : Fades (.cons node below rest) rest'

theorem Fades.refl (items : Items) : Fades items items := by
  induction items with
  | nil => exact .nil
  | cons node below rest inner outer => exact .keep inner outer

/-- Of items without properties nothing is left. -/
theorem fades_nil_of_bare {items : Items}
    (bare : ∀ node ∈ items.preorder, node.value.properties = .empty) : Fades items .nil := by
  induction items with
  | nil => exact .nil
  | cons node below rest ihBelow ihRest =>
    rw [Forest.preorder, List.forall_mem_cons, List.forall_mem_append] at bare
    obtain ⟨own, inside, behind⟩ := bare
    exact .lose own (ihBelow inside) (ihRest behind)

section Bare

variable {box : Box}

theorem Box.drawn_of_bare (bare : box.properties = .empty) : box.drawn = false := by
  rw [Box.drawn, bare]
  rfl

/-- A box without properties does not move the line. -/
theorem Box.lineAfter_of_bare (bare : box.properties = .empty) (anchored : Bool) (line : Line) :
    box.lineAfter anchored line = line := by
  unfold Box.lineAfter
  rw [Box.drawn_of_bare bare]
  rfl

/-- A box without properties takes no room in its row. -/
theorem Box.runningAfter_of_bare (bare : box.properties = .empty) (baseX runningX : Float32) :
    box.runningAfter baseX runningX = runningX := by
  unfold Box.runningAfter
  rw [Box.drawn_of_bare bare, bare]
  rfl

end Bare

/-- A forest that loses trees without properties keeps its drawn boxes, and the line behind it. -/
theorem place_of_fades {items left : Items} (fades : Fades items left) (contentWidth : Float32)
    (above : List Properties) (baseX runningX : Float32) (line : Line) :
    (place contentWidth above baseX runningX line items).1.filter Box.drawn =
        (place contentWidth above baseX runningX line left).1.filter Box.drawn ∧
      (place contentWidth above baseX runningX line items).2 =
        (place contentWidth above baseX runningX line left).2 := by
  induction fades generalizing above baseX runningX line with
  | nil => exact ⟨rfl, rfl⟩
  | keep inner outer ihInner ihOuter =>
    rw [place, place]
    dsimp only
    obtain ⟨sameInside, sameLine⟩ := ihInner (_ :: above) _ _ _
    obtain ⟨sameBehind, sameEnd⟩ := ihOuter above baseX _ _
    rw [List.cons_append, List.cons_append, List.filter_cons, List.filter_cons, List.filter_append,
      List.filter_append, sameInside, sameLine, sameBehind, sameEnd]
    exact ⟨rfl, rfl⟩
  | @lose node below rest rest' bare inner outer ihInner ihOuter =>
    -- The line and the row behind the box are those before it, so the rest starts as without it.
    have own : (boxOf contentWidth above runningX line node).properties = .empty := bare
    have undrawn := Box.drawn_of_bare own
    rw [place]
    dsimp only
    rw [Box.lineAfter_of_bare own, Box.runningAfter_of_bare own]
    obtain ⟨nothing, same⟩ := ihInner (node.value.properties :: above)
      (boxOf contentWidth above runningX line node).x
      (boxOf contentWidth above runningX line node).x line
    rw [place] at nothing same
    rw [same, List.cons_append, List.filter_cons_of_neg (by rw [undrawn]; exact Bool.false_ne_true),
      List.filter_append, nothing, List.filter_nil, List.nil_append]
    exact ihOuter above baseX runningX line

/-- What is drawn of a forest does not change when it loses trees without properties. -/
theorem map_boxCommands_layout?_of_fades {items left : Items} (fades : Fades items left)
    (contentWidth originX originY : Float32) :
    (layout? contentWidth items).map (boxCommands originX originY) =
      (layout? contentWidth left).map (boxCommands originX originY) := by
  obtain ⟨drawn, -⟩ := place_of_fades fades contentWidth [] 0 0 {}
  unfold layout? placeAll
  split
  · rw [Option.map_some, Option.map_some, boxCommands_eq_flatMap, boxCommands_eq_flatMap, drawn]
  · rfl

/-! ## The tree of one node -/

theorem treeIds_subset {items : Items} {above : List (Numbered Item)} {number : Nat}
    {node : Position (Numbered Item)} (stands : items.StandsAt above number node) :
    node.treeIds ⊆ items.preorder.map Numbered.id :=
  List.map_subset _ stands.tree_subset

/-- Items with other numbers keep their properties. -/
theorem clear_of_disjoint {items : Items} {ids : List Nat}
    (disjoint : ids.Disjoint (items.preorder.map Numbered.id)) : items.clear ids = items := by
  rw [Items.clear_eq_map]
  calc items.map (clearedIn ids) = items.map id := Forest.map_congr_of_mem fun node member =>
        clearedIn_of_notMem fun listed => disjoint listed (List.mem_map_of_mem member)
    _ = items := Forest.map_id items

/-- A forest fades to nothing when all its numbers are cleared. -/
theorem fades_nil_clear {items : Items} {ids : List Nat}
    (all : items.preorder.map Numbered.id ⊆ ids) : Fades (items.clear ids) .nil := by
  refine fades_nil_of_bare fun node member => ?_
  rw [Items.clear_eq_map, Forest.preorder_map] at member
  obtain ⟨source, listed, rfl⟩ := List.mem_map.1 member
  rw [clearedIn_of_mem (all (List.mem_map_of_mem listed))]
  rfl

theorem clear_cons (node : Numbered Item) (below rest : Items) (ids : List Nat) :
    Items.clear (.cons node below rest) ids =
      .cons (clearedIn ids node) (Items.clear below ids) (Items.clear rest ids) := by
  rw [Items.clear_eq_map, Items.clear_eq_map, Items.clear_eq_map, Forest.map]

/-- The numbers of a forest are all different if those of its parts are, and of no two parts the
same. -/
theorem nodup_ids_cons {root : Numbered Item} {below rest : Items} :
    ((Forest.cons root below rest).preorder.map Numbered.id).Nodup ↔
      (root.id ∉ below.preorder.map Numbered.id ∧ root.id ∉ rest.preorder.map Numbered.id) ∧
        (below.preorder.map Numbered.id).Nodup ∧ (rest.preorder.map Numbered.id).Nodup ∧
        (below.preorder.map Numbered.id).Disjoint (rest.preorder.map Numbered.id) := by
  rw [Forest.preorder, List.map_cons, List.map_append, List.nodup_cons, List.mem_append, not_or,
    List.nodup_append']

/-- A forest with a cleared tree fades to the forest without it. -/
theorem fades_clear {items : Items} {above : List (Numbered Item)} {number : Nat}
    {node : Position (Numbered Item)} (stands : items.StandsAt above number node)
    (apart : (items.preorder.map Numbered.id).Nodup) :
    Fades (items.clear node.treeIds) (items.remove number) := by
  induction stands with
  | root root below rest above =>
    obtain ⟨⟨-, rootBehind⟩, -, -, disjoint⟩ := nodup_ids_cons.1 apart
    have own : root.id ∈ Position.treeIds ⟨above, root, below⟩ := List.mem_cons_self
    have others : (Position.treeIds ⟨above, root, below⟩).Disjoint (rest.preorder.map Numbered.id) :=
      List.disjoint_cons_left.2 ⟨rootBehind, disjoint⟩
    rw [clear_cons, Forest.remove_zero, clear_of_disjoint others, clearedIn_of_mem own]
    exact .lose rfl (fades_nil_clear (List.subset_cons_self _ _)) (.refl rest)
  | inside stands within rest ih =>
    obtain ⟨⟨rootInside, -⟩, inside, -, disjoint⟩ := nodup_ids_cons.1 apart
    have listed := treeIds_subset stands
    have others := List.disjoint_of_subset_left listed disjoint
    rw [clear_cons, Forest.remove_succ_of_lt within, clear_of_disjoint others,
      clearedIn_of_notMem fun member => rootInside (listed member)]
    exact .keep (ih inside) (.refl rest)
  | behind stands root below ih =>
    obtain ⟨⟨-, rootBehind⟩, -, behind, disjoint⟩ := nodup_ids_cons.1 apart
    have listed := treeIds_subset stands
    have others := List.disjoint_of_subset_left listed disjoint.symm
    rw [clear_cons, Forest.remove_behind, clear_of_disjoint others,
      clearedIn_of_notMem fun member => rootBehind (listed member)]
    exact .keep (.refl below) (ih behind)

/-! ## Documents -/

/-- What is drawn of items does not depend on their numbers. -/
theorem map_boxCommands_layout?_withoutNumber (contentWidth originX originY : Float32)
    (items : Items) :
    (layout? contentWidth (items.map Numbered.withoutNumber)).map (boxCommands originX originY) =
      (layout? contentWidth items).map (boxCommands originX originY) := by
  have keeps : ∀ node : Numbered Item,
      node.withoutNumber.value.properties = node.value.properties := fun _ => rfl
  have texts : ∀ node : Numbered Item,
      node.withoutNumber.value.element.text = node.value.element.text := fun _ => rfl
  exact map_boxCommands_layout?_map keeps texts contentWidth originX originY items

/-- A document with a cleared tree is drawn by the commands of the document without the rule of
the tree and without the rules below it. -/
theorem map_boxCommands_layout?_clear {rules : Forest Rule} {number : Nat}
    {node : Position (Numbered Item)} (found : (itemsOfRules rules).position? number = some node)
    (contentWidth originX originY : Float32) :
    (layout? contentWidth ((itemsOfRules rules).clear node.treeIds)).map
        (boxCommands originX originY) =
      (layout? contentWidth (itemsOfRules (removeElement rules number))).map
        (boxCommands originX originY) := by
  have apart : ((itemsOfRules rules).preorder.map Numbered.id).Nodup := by
    rw [map_id_preorder_itemsOfRules]
    exact List.nodup_range
  have stands := Forest.standsAt_of_getElem? found
  rw [map_boxCommands_layout?_of_fades (fades_clear stands apart),
    ← map_boxCommands_layout?_withoutNumber, ← map_withoutNumber_itemsOfRules_removeElement,
    map_boxCommands_layout?_withoutNumber]

/-- A row with a frame around a heading between two labels. -/
def framedRow : Forest Rule :=
  let rule (name : String) (declarations : List (String × String)) : Rule :=
    ⟨.element (some name), Attributes.ofList declarations, none⟩
  .cons (rule "first" [("display", "inline"), ("width", "30pt")]) .nil
    (.cons (rule "frame" [("display", "inline"), ("width", "40pt"), ("left", "12pt")])
      (.cons (rule "heading" [("display", "block"), ("height", "9pt")]) .nil .nil)
      (.cons (rule "last" [("display", "inline")]) .nil .nil))

theorem map_boxCommands_layout?_clear_framedRow :
    ∃ node, (itemsOfRules framedRow).position? 1 = some node ∧ node.treeIds = [1, 2] ∧
      (layout? 200 ((itemsOfRules framedRow).clear [1, 2])).map (boxCommands 10 10) =
        (layout? 200 (itemsOfRules (removeElement framedRow 1))).map (boxCommands 10 10) := by
  have frame : ((itemsOfRules framedRow).position? 1).map Position.treeIds = some [1, 2] := by
    decide +kernel
  obtain ⟨node, found, ids⟩ := Option.map_eq_some_iff.1 frame
  have same := map_boxCommands_layout?_clear found 200 10 10
  rw [ids] at same
  exact ⟨node, found, ids, same⟩

end Folio
