import Mathlib.Data.List.Basic
import Folio.Proofs.DrawBlocks
import Folio.Proofs.NumberedForest
import Folio.Proofs.Placing
import Folio.Proofs.Removal

/-!
# Nothing depends on what comes later

A document is worked off in pre-order, and no stage looks ahead: neither at the siblings behind a
node nor at what is below it. Two forests agree on their first nodes (`Forest.AgreesFor`) if these
nodes have the same values at the same places, whatever follows. Every stage keeps that agreement,
and at the end the boxes of the first nodes are the same (`take_place_of_agreesFor`).

Appending rules at the end of a level is one way to get such forests: the document agrees with the
longer one on all elements before the place where the rules were put
(`agreesFor_elementsBehind_append`, `agreesFor_elementsBehind_appendBelow`).
-/

namespace Folio

namespace Forest

variable {α β : Type}

/-! ## Agreement -/

/-- Whether two forests have the same first nodes in pre-order, at the same places. Nothing is said
about the nodes behind those. -/
inductive AgreesFor : Nat → Forest α → Forest α → Prop
  | start (first second : Forest α) : AgreesFor 0 first second
  | inside {count : Nat} {first second : Forest α} (agree : AgreesFor count first second)
      (value : α) (firstRest secondRest : Forest α) :
      AgreesFor (1 + count) (cons value first firstRest) (cons value second secondRest)
  | behind {count : Nat} {first second : Forest α} (agree : AgreesFor count first second)
      (value : α) (below : Forest α) :
      AgreesFor (1 + below.size + count) (cons value below first) (cons value below second)

/-- Agreement on some nodes means that there are so many. -/
theorem AgreesFor.le_size {count : Nat} {first second : Forest α}
    (agree : AgreesFor count first second) : count ≤ first.size ∧ count ≤ second.size := by
  induction agree with
  | start => exact ⟨Nat.zero_le _, Nat.zero_le _⟩
  | inside _ _ _ _ ih =>
    rw [size, size]
    omega
  | behind _ _ _ ih =>
    rw [size, size]
    omega

theorem AgreesFor.take_preorder {count : Nat} {first second : Forest α}
    (agree : AgreesFor count first second) :
    first.preorder.take count = second.preorder.take count := by
  induction agree with
  | start => rfl
  | @inside count first second agree value firstRest secondRest ih =>
    obtain ⟨inFirst, inSecond⟩ := agree.le_size
    rw [← length_preorder] at inFirst inSecond
    rw [preorder, preorder, Nat.add_comm, List.take_succ_cons, List.take_succ_cons,
      List.take_append_of_le_length inFirst, List.take_append_of_le_length inSecond, ih]
  | @behind count first second agree value below ih =>
    have behind : 1 + below.size + count = below.preorder.length + count + 1 := by
      rw [length_preorder]
      omega
    rw [preorder, preorder, behind, List.take_succ_cons, List.take_succ_cons,
      List.take_length_add_append, List.take_length_add_append, ih]

/-- A forest agrees with itself and more behind it on all of its nodes. -/
theorem agreesFor_append (forest more : Forest α) :
    AgreesFor forest.size forest (forest ++ more) := by
  induction forest with
  | nil => exact .start _ _
  | cons value below rest _ ihRest => exact .behind ihRest value below

theorem AgreesFor.number {count : Nat} {first second : Forest α}
    (agree : AgreesFor count first second) (next : Nat) :
    AgreesFor count (first.number next) (second.number next) := by
  induction agree generalizing next with
  | start => exact .start _ _
  | inside _ value firstRest secondRest ih => exact .inside (ih _) _ _ _
  | behind _ value below ih =>
    rw [Forest.number, Forest.number, ← size_number (next + 1) below]
    exact .behind (ih _) _ _

end Forest

open Forest (AgreesFor)

/-! ## Items and boxes -/

/-- An item depends on what lies above it and on nothing beside or below it. -/
theorem agreesFor_itemsBelow {count : Nat} {first second : Elements}
    (agree : AgreesFor count first second) (above : List Style) :
    AgreesFor count (itemsBelow above first) (itemsBelow above second) := by
  induction agree generalizing above with
  | start => exact .start _ _
  | inside _ value firstRest secondRest ih => exact .inside (ih _) _ _ _
  | behind _ value below ih =>
    rw [Folio.itemsBelow, Folio.itemsBelow, ← size_itemsBelow (value.value.style :: above) below]
    exact .behind (ih _) _ _

theorem length_place (contentWidth : Float32) (above : List Properties) (baseX runningX : Float32)
    (line : Line) (items : Items) :
    (place contentWidth above baseX runningX line items).1.length = items.size := by
  rw [← Forest.length_preorder, ← map_item_place contentWidth above baseX runningX line,
    List.length_map]

/-- The boxes of the first nodes do not depend on the nodes behind them. -/
theorem take_place_of_agreesFor {count : Nat} {first second : Items}
    (agree : AgreesFor count first second) (contentWidth : Float32) (above : List Properties)
    (baseX runningX : Float32) (line : Line) :
    (place contentWidth above baseX runningX line first).1.take count =
      (place contentWidth above baseX runningX line second).1.take count := by
  induction agree generalizing above baseX runningX line with
  | start => rfl
  | @inside count first second agree node firstRest secondRest ih =>
    rw [place, place]
    dsimp only
    generalize boxOf contentWidth above runningX line node = box
    generalize box.lineAfter _ line = behind
    obtain ⟨inFirst, inSecond⟩ := agree.le_size
    rw [← length_place contentWidth (node.value.properties :: above) box.x box.x behind]
      at inFirst inSecond
    rw [Nat.add_comm, List.cons_append, List.cons_append, List.take_succ_cons,
      List.take_succ_cons, List.take_append_of_le_length inFirst,
      List.take_append_of_le_length inSecond, ih]
  | @behind count first second agree node below ih =>
    rw [place, place]
    dsimp only
    generalize boxOf contentWidth above runningX line node = box
    generalize box.lineAfter _ line = behind
    -- The tree of the node and the line behind it are the same on both sides.
    have length := length_place contentWidth (node.value.properties :: above) box.x box.x behind
      below
    generalize place contentWidth (node.value.properties :: above) box.x box.x behind below =
      inner at *
    have taken : 1 + below.size + count = inner.1.length + count + 1 := by
      rw [length]
      omega
    rw [taken, List.cons_append, List.cons_append, List.take_succ_cons, List.take_succ_cons,
      List.take_length_add_append, List.take_length_add_append, ih]

/-! ## Appended rules -/

/-- The rules with others at the end of what is below the element rule that has a number among those
outside of directives. -/
def appendBelow (added : Forest Rule) : Forest Rule → Nat → Forest Rule
  | .nil, _ => .nil
  | .cons rule below rest, number =>
    match rule.kind with
    | .directive => .cons rule below (appendBelow added rest number)
    | .element _ =>
      if number = 0 then .cons rule (below ++ added) rest
      else if number ≤ (elementRules below).length then
        .cons rule (appendBelow added below (number - 1)) rest
      else .cons rule below (appendBelow added rest (number - 1 - (elementRules below).length))

/-- Rules behind a level add elements behind its elements. -/
theorem agreesFor_elementsBehind_append (directive : Option Style) (rules added : Forest Rule) :
    AgreesFor (elementRules rules).length (elementsBehind directive rules)
      (elementsBehind directive (rules ++ added)) := by
  have split : ∀ directive, ∃ more, elementsBehind directive (rules ++ added) =
      elementsBehind directive rules ++ more := by
    induction rules with
    | nil => exact fun directive => ⟨elementsBehind directive added, rfl⟩
    | cons rule below rest _ ihRest =>
      intro directive
      change ∃ more, elementsBehind directive (.cons rule below (rest ++ added)) = _
      rw [elementsBehind, elementsBehind]
      cases rule.kind with
      | directive => exact ihRest _
      | element name =>
        obtain ⟨more, same⟩ := ihRest directive
        refine ⟨more, ?_⟩
        dsimp only
        rw [same]
        rfl
  obtain ⟨more, same⟩ := split directive
  rw [same, ← size_elementsBehind directive]
  exact Forest.agreesFor_append _ more

/-- Rules at the end of what is below an element add elements behind all that was below it. -/
theorem agreesFor_elementsBehind_appendBelow {directive : Option Style} {rules : Forest Rule}
    {above : List Element} {number : Nat} {node : Position Element}
    (stands : (elementsBehind directive rules).StandsAt above number node)
    (added : Forest Rule) :
    AgreesFor (number + 1 + node.below.size) (elementsBehind directive rules)
      (elementsBehind directive (appendBelow added rules number)) := by
  induction rules generalizing directive above number with
  | nil => cases stands
  | cons rule below rest ihBelow ihRest =>
    rw [elementsBehind] at stands ⊢
    rw [appendBelow]
    cases kind : rule.kind with
    | directive =>
      rw [kind] at stands
      dsimp only at stands ⊢
      rw [elementsBehind, kind]
      exact ihRest stands
    | element name =>
      rw [kind] at stands
      dsimp only at stands ⊢
      rw [← size_elementsBehind none below]
      cases stands with
      | root =>
        have inner := agreesFor_elementsBehind_append none below added
        rw [← size_elementsBehind none below] at inner
        rw [if_pos rfl, elementsBehind, kind, Nat.zero_add]
        exact .inside inner _ _ _
      | @inside _ _ _ number _ stands within _ =>
        have count : number + 1 + 1 + node.below.size =
            1 + (number + 1 + node.below.size) := by omega
        rw [if_neg (Nat.succ_ne_zero number), if_pos (Nat.succ_le_of_lt within),
          Nat.add_sub_cancel, elementsBehind, kind, count]
        exact .inside (ihBelow stands) _ _ _
      | @behind _ _ number _ stands _ _ =>
        have count : (elementsBehind none below).size + number + 1 + 1 + node.below.size =
            1 + (elementsBehind none below).size + (number + 1 + node.below.size) := by omega
        rw [if_neg (Nat.succ_ne_zero _), if_neg (by omega), Nat.add_sub_cancel,
          Nat.add_sub_cancel_left, elementsBehind, kind, count]
        exact .behind (ihRest stands) _ _

/-! ## The first elements of a document -/

/-- Whether two documents have the same first elements, and everything made of these elements is the
same: styles, properties, boxes and commands. The commands of their boxes stand at the front of
the commands of either document. -/
structure SameStart (count : Nat) (first second : Forest Rule) : Prop where
  enough : count ≤ (elementsOf first).size ∧ count ≤ (elementsOf second).size
  elements : (elementsOf first).preorder.take count = (elementsOf second).preorder.take count
  items : (itemsOfRules first).preorder.take count = (itemsOfRules second).preorder.take count
  boxes : ∀ contentWidth : Float32, isContentWidth contentWidth = true →
    ∃ firstBoxes secondBoxes,
      layout? contentWidth (itemsOfRules first) = some firstBoxes ∧
      layout? contentWidth (itemsOfRules second) = some secondBoxes ∧
      firstBoxes.take count = secondBoxes.take count ∧
      ∀ originX originY : Float32,
        boxCommands originX originY (firstBoxes.take count) <+:
          boxCommands originX originY firstBoxes ∧
        boxCommands originX originY (firstBoxes.take count) <+:
          boxCommands originX originY secondBoxes

theorem boxCommands_take_prefix (originX originY : Float32) (count : Nat) (boxes : List Box) :
    boxCommands originX originY (boxes.take count) <+: boxCommands originX originY boxes := by
  conv_rhs => rw [← List.take_append_drop count boxes]
  rw [boxCommands_eq_flatMap, boxCommands_eq_flatMap, List.filter_append, List.flatMap_append]
  exact List.prefix_append _ _

theorem sameStart_of_agreesFor {count : Nat} {first second : Forest Rule}
    (agree : AgreesFor count (elementsBehind none first) (elementsBehind none second)) :
    SameStart count first second := by
  have elements : AgreesFor count (elementsOf first) (elementsOf second) := agree.number 0
  have items : AgreesFor count (itemsOfRules first) (itemsOfRules second) :=
    agreesFor_itemsBelow elements []
  refine ⟨elements.le_size, elements.take_preorder, items.take_preorder, ?_⟩
  intro contentWidth area
  have boxes := take_place_of_agreesFor items contentWidth [] 0 0 {}
  refine ⟨_, _, if_pos area, if_pos area, boxes, fun originX originY => ⟨?_, ?_⟩⟩
  · exact boxCommands_take_prefix originX originY count _
  · rw [placeAll, boxes]
    exact boxCommands_take_prefix originX originY count _

/-- Changes the value of a position and of all that is above and below it. -/
def Position.map {α β : Type} (change : α → β) (position : Position α) : Position β :=
  ⟨position.above.map change, change position.value, position.below.map change⟩

theorem Forest.positions_map {α β : Type} (change : α → β) (above : List α) (forest : Forest α) :
    (forest.map change).positions (above.map change) =
      (forest.positions above).map (Position.map change) := by
  induction forest generalizing above with
  | nil => rfl
  | cons value below rest ihBelow ihRest =>
    rw [Forest.map, positions, positions, List.map_cons, List.map_append, ← ihBelow, ← ihRest]
    rfl

/-- Rules that are appended, at the end of the document or at the end of what is below an element,
change nothing about the elements before the place where they are put. Behind the document, these
are all elements of it, so the commands of the document are the front of those of the longer one. -/
theorem sameStart_of_appended (rules added : Forest Rule) :
    SameStart (elementRules rules).length rules (rules ++ added) ∧
    (∀ contentWidth originX originY : Float32,
      ∀ boxes ∈ layout? contentWidth (itemsOfRules rules),
        ∀ longer ∈ layout? contentWidth (itemsOfRules (rules ++ added)),
          boxCommands originX originY boxes <+: boxCommands originX originY longer) ∧
    ∀ (number : Nat) (node : Position (Numbered Element)),
      (elementsOf rules).position? number = some node →
        SameStart (number + 1 + node.below.size) rules (appendBelow added rules number) := by
  have behind : SameStart (elementRules rules).length rules (rules ++ added) :=
    sameStart_of_agreesFor (agreesFor_elementsBehind_append none rules added)
  refine ⟨behind, ?_, ?_⟩
  · intro contentWidth originX originY boxes laid longer laidLonger
    obtain ⟨area, -⟩ := layout?_eq_some_iff.1 laid
    obtain ⟨boxes', longer', laid', laidLonger', -, commands⟩ := behind.boxes contentWidth area
    obtain rfl : boxes = boxes' := Option.some.inj (laid.symm.trans laid')
    obtain rfl : longer = longer' := Option.some.inj (laidLonger.symm.trans laidLonger')
    have all : boxes.take (elementRules rules).length = boxes := by
      refine List.take_of_length_le (Nat.le_of_eq ?_)
      have items := congrArg List.length (map_item_layout? laid)
      have elements := congrArg List.length (map_preorder_itemsOfRules rules)
      rw [List.length_map] at items
      rw [List.length_map, List.length_map] at elements
      rw [items, elements]
    have front := (commands originX originY).2
    rwa [all] at front
  · intro number node found
    have inDocument : ((elementsBehind none rules).positions [])[number]? =
        some (node.map Numbered.value) := by
      have values := Forest.positions_map Numbered.value [] (elementsOf rules)
      rw [map_value_elementsOf, List.map_nil] at values
      rw [values, List.getElem?_map, ← Forest.position?, found, Option.map_some]
    have size : (node.map Numbered.value).below.size = node.below.size :=
      Forest.size_map Numbered.value node.below
    rw [← size]
    have stands := Forest.standsAt_of_getElem? inDocument
    exact sameStart_of_agreesFor (agreesFor_elementsBehind_appendBelow stands added)

/-- A block with an element below it, and an element behind it. -/
def nestedPair : Forest Rule :=
  .cons ⟨.element (some "a"), .ofList [("display", "block"), ("height", "8pt")], some "A"⟩
    (.cons ⟨.element (some "b"), .ofList [("height", "9pt")], some "B"⟩ .nil .nil)
    (.cons ⟨.element (some "c"), ∅, some "C"⟩ .nil .nil)

/-- A directive, and a block that is higher than what `nestedPair` holds. -/
def tallBlock : Forest Rule :=
  .cons ⟨.directive, .ofList [("height", "20pt")], none⟩ .nil
    (.cons ⟨.element (some "d"), .ofList [("display", "block")], none⟩ .nil .nil)

/-- Behind the block nothing moves; below it, only what comes later does. -/
theorem sameStart_of_appended_tallBlock :
    isContentWidth 200 = true ∧
    (layout? 200 (itemsOfRules nestedPair)).map (·.map Box.y) = some [0, 8, 8] ∧
    (layout? 200 (itemsOfRules (appendBelow tallBlock nestedPair 0))).map (·.map Box.y) =
      some [0, 8, 8, 28] ∧
    SameStart 3 nestedPair (nestedPair ++ tallBlock) ∧
    (∃ boxes ∈ layout? 200 (itemsOfRules nestedPair),
      ∃ longer ∈ layout? 200 (itemsOfRules (nestedPair ++ tallBlock)),
        boxCommands 40 40 boxes <+: boxCommands 40 40 longer) ∧
    ∃ node, (elementsOf nestedPair).position? 0 = some node ∧ node.below.size = 1 ∧
      SameStart 2 nestedPair (appendBelow tallBlock nestedPair 0) := by
  obtain ⟨behind, front, inside⟩ := sameStart_of_appended nestedPair tallBlock
  have area : isContentWidth 200 = true := by decide +kernel
  have laid : ∀ rules, (placeAll 200 (itemsOfRules rules)).1 ∈ layout? 200 (itemsOfRules rules) :=
    fun rules => if_pos area
  exact ⟨area, by decide +kernel, by decide +kernel, behind,
    ⟨_, laid _, _, laid _, front 200 40 40 _ (laid _) _ (laid _)⟩, _, rfl, rfl, inside 0 _ rfl⟩

end Folio
