import Mathlib.Data.List.Basic
import Folio.Proofs.DocumentTree
import Folio.Proofs.NumberedForest

/-!
# Removing an element

An element rule is removed together with all that is below it. In pre-order the nodes of a tree
come in one run, so removing the tree removes this run from every list that follows the pre-order;
what the other nodes are and what they lie under stays (`Forest.StandsAt.map_path_remove`).

The stages from rules to items take the removal along: directives do not see the elements of their
level, and no style depends on an element beside it or below it. Only the numbers of the nodes
behind the gap change (`map_withoutNumber_itemsOfRules_removeElement`).
-/

namespace Folio

/-- A list without a run of its entries. -/
def withoutRun {α : Type} (start length : Nat) (entries : List α) : List α :=
  entries.take start ++ entries.drop (start + length)

theorem withoutRun_append {α : Type} {start length : Nat} {before gone : List α}
    (starts : before.length = start) (long : gone.length = length) (after : List α) :
    withoutRun start length (before ++ gone ++ after) = before ++ after := by
  rw [withoutRun, ← starts, ← long, ← List.length_append, List.drop_left, List.append_assoc,
    List.take_left]

theorem withoutRun_cons {α : Type} (start length : Nat) (x : α) (entries : List α) :
    withoutRun (start + 1) length (x :: entries) = x :: withoutRun start length entries := by
  rw [withoutRun, withoutRun, List.take_succ_cons, Nat.add_right_comm, List.drop_succ_cons,
    List.cons_append]

theorem withoutRun_root {α : Type} {first : List α} {length : Nat}
    (long : length = 1 + first.length) (x : α) (second : List α) :
    withoutRun 0 length (x :: (first ++ second)) = second := by
  rw [withoutRun, long, List.take_zero, List.nil_append, Nat.zero_add, Nat.add_comm,
    List.drop_succ_cons, List.drop_left]

theorem withoutRun_append_left {α : Type} {start length : Nat} {first : List α}
    (inside : start + length ≤ first.length) (second : List α) :
    withoutRun start length (first ++ second) = withoutRun start length first ++ second := by
  rw [withoutRun, withoutRun, List.take_append_of_le_length (by omega),
    List.drop_append_of_le_length inside, List.append_assoc]

theorem withoutRun_append_right {α : Type} {first : List α} {skipped : Nat}
    (far : skipped = first.length) (start length : Nat) (second : List α) :
    withoutRun (skipped + start) length (first ++ second) =
      first ++ withoutRun start length second := by
  rw [withoutRun, withoutRun, far, List.take_length_add_append, Nat.add_assoc,
    List.drop_length_add_append, List.append_assoc]

theorem map_withoutRun {α β : Type} (f : α → β) (start length : Nat) (entries : List α) :
    (withoutRun start length entries).map f = withoutRun start length (entries.map f) := by
  rw [withoutRun, withoutRun, List.map_append, List.map_take, List.map_drop]

/-! ## Forests -/

/-- What a node is and what it lies under. -/
def Position.path {α : Type} (position : Position α) : α × List α :=
  (position.value, position.above)

namespace Forest

variable {α β : Type}

/-- The forest without the tree whose root has a number in pre-order, counted from zero. -/
def remove : Forest α → Nat → Forest α
  | nil, _ => nil
  | cons value below rest, number =>
    if number = 0 then rest
    else if number ≤ below.size then cons value (below.remove (number - 1)) rest
    else cons value below (rest.remove (number - 1 - below.size))

@[simp] theorem remove_zero (value : α) (below rest : Forest α) :
    (cons value below rest).remove 0 = rest := by
  rw [remove, if_pos rfl]

theorem remove_succ_of_lt {number : Nat} {below : Forest α} (inside : number < below.size)
    (value : α) (rest : Forest α) :
    (cons value below rest).remove (number + 1) = cons value (below.remove number) rest := by
  rw [remove, if_neg (Nat.succ_ne_zero number), if_pos (Nat.succ_le_of_lt inside),
    Nat.add_sub_cancel]

theorem remove_behind (number : Nat) (value : α) (below rest : Forest α) :
    (cons value below rest).remove (below.size + number + 1) =
      cons value below (rest.remove number) := by
  rw [remove, if_neg (Nat.succ_ne_zero _), if_neg (by omega), Nat.add_sub_cancel,
    Nat.add_sub_cancel_left]

theorem map_remove (f : α → β) (forest : Forest α) (number : Nat) :
    (forest.remove number).map f = (forest.map f).remove number := by
  induction forest generalizing number with
  | nil => rfl
  | cons value below rest ihBelow ihRest =>
    rw [map, remove, remove, size_map]
    split
    · rfl
    · split
      · rw [map, ihBelow]
      · rw [map, ihRest]

/-- Removing a tree leaves all other nodes as they are, and what they lie under. -/
theorem StandsAt.map_path_remove {forest : Forest α} {above : List α} {number : Nat}
    {node : Position α} (stands : StandsAt forest above number node) :
    ((forest.remove number).positions above).map Position.path =
      withoutRun number (1 + node.below.size) ((forest.positions above).map Position.path) := by
  induction stands with
  | root value below rest above =>
    rw [remove_zero, positions, List.map_cons, List.map_append, withoutRun_root (by simp)]
  | inside stands within rest ih =>
    rw [remove_succ_of_lt within, positions, positions, List.map_cons, List.map_append, ih,
      List.map_cons, List.map_append, withoutRun_cons,
      withoutRun_append_left (by simpa using stands.le_size)]
    rfl
  | behind _ value below ih =>
    rw [remove_behind, positions, positions, List.map_cons, List.map_append, ih, List.map_cons,
      List.map_append, withoutRun_cons, withoutRun_append_right (by simp)]

/-- Lists with an entry for each node keep one for each node that is left. -/
theorem StandsAt.length_withoutRun {forest : Forest α} {above : List α} {number : Nat}
    {node : Position α} (stands : StandsAt forest above number node) {entries : List β}
    (each : entries.length = forest.size) :
    (withoutRun number (1 + node.below.size) entries).length = (forest.remove number).size := by
  have paths := congrArg List.length stands.map_path_remove
  simp only [withoutRun, List.length_append, List.length_take, List.length_drop, List.length_map,
    length_positions] at paths
  rw [paths, withoutRun, List.length_append, List.length_take, List.length_drop, each]

end Forest

/-! ## Rules -/

/-- The rules without the element rule that has a number among those outside of directives, and
without all that is below it. -/
def removeElement : Forest Rule → Nat → Forest Rule
  | .nil, _ => .nil
  | .cons rule below rest, number =>
    match rule.kind with
    | .directive => .cons rule below (removeElement rest number)
    | .element _ =>
      if number = 0 then rest
      else if number ≤ (elementRules below).length then
        .cons rule (removeElement below (number - 1)) rest
      else .cons rule below (removeElement rest (number - 1 - (elementRules below).length))

theorem size_elementsBehind (directive : Option Style) (rules : Forest Rule) :
    (elementsBehind directive rules).size = (elementRules rules).length := by
  have same := congrArg List.length (map_preorder_elementsBehind directive rules)
  rwa [List.length_map, List.length_map, Forest.length_preorder] at same

/-- The elements of the other rules stay as they are. -/
theorem elementsBehind_removeElement (directive : Option Style) (rules : Forest Rule)
    (number : Nat) :
    elementsBehind directive (removeElement rules number) =
      (elementsBehind directive rules).remove number := by
  induction rules generalizing directive number with
  | nil => rfl
  | cons rule below rest ihBelow ihRest =>
    rw [removeElement, elementsBehind]
    cases kind : rule.kind with
    | directive =>
      dsimp only
      rw [elementsBehind, kind]
      exact ihRest _ number
    | element name =>
      dsimp only
      rw [Forest.remove, size_elementsBehind]
      split
      · rfl
      · split
        · rw [elementsBehind, kind]
          dsimp only
          rw [ihBelow]
        · rw [elementsBehind, kind]
          dsimp only
          rw [ihRest]

/-! ## Items -/

/-- A node without its number. -/
def Numbered.withoutNumber {α : Type} (node : Numbered α) : Numbered α :=
  ⟨0, node.value⟩

theorem map_withoutNumber_number {α : Type} (next : Nat) (forest : Forest α) :
    (forest.number next).map Numbered.withoutNumber = forest.map (Numbered.mk 0) := by
  induction forest generalizing next with
  | nil => rfl
  | cons value below rest ihBelow ihRest =>
    rw [Forest.number, Forest.map, Forest.map, ihBelow, ihRest]
    rfl

/-- No item depends on a number. -/
theorem itemsBelow_map_withoutNumber (above : List Style) (elements : Elements) :
    itemsBelow above (elements.map Numbered.withoutNumber) =
      (itemsBelow above elements).map Numbered.withoutNumber := by
  induction elements generalizing above with
  | nil => rfl
  | cons node below rest ihBelow ihRest =>
    rw [Forest.map, itemsBelow, itemsBelow, Forest.map, ← ihRest, ← ihBelow]
    rfl

theorem size_itemsBelow (above : List Style) (elements : Elements) :
    (itemsBelow above elements).size = elements.size := by
  conv_rhs => rw [← map_element_itemsBelow above elements, Forest.size_map]

/-- No item depends on another one that it does not lie under. -/
theorem itemsBelow_remove (above : List Style) (elements : Elements) (number : Nat) :
    itemsBelow above (elements.remove number) = (itemsBelow above elements).remove number := by
  induction elements generalizing above number with
  | nil => rfl
  | cons node below rest ihBelow ihRest =>
    rw [itemsBelow, Forest.remove, Forest.remove, size_itemsBelow]
    split
    · rfl
    · split
      · rw [itemsBelow, ihBelow]
      · rw [itemsBelow, ihRest]

/-- Up to numbers, the items without an element are those of the document without its rule. -/
theorem map_withoutNumber_itemsOfRules_removeElement (rules : Forest Rule) (number : Nat) :
    (itemsOfRules (removeElement rules number)).map Numbered.withoutNumber =
      ((itemsOfRules rules).remove number).map Numbered.withoutNumber := by
  rw [itemsOfRules, itemsOfRules, itemsOf, itemsOf, elementsOf, elementsOf, Forest.map_remove,
    ← itemsBelow_map_withoutNumber, ← itemsBelow_map_withoutNumber, map_withoutNumber_number,
    map_withoutNumber_number, elementsBehind_removeElement, Forest.map_remove, itemsBelow_remove]

end Folio
